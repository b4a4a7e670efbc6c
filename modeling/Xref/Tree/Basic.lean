import Xref.Tree.Grammar

/-!
# Trees of a module

A tree is a form with parts that fill its slots, so a node can only stand where the grammar lets it
stand. Parts are one inductive family over lists of slots: a single induction reaches every name and
every node of a tree, of whatever category.

The trees are over a type `I` of identifiers, resolved or typed.
-/

namespace Xref

/-- What fills a list of slots. -/
inductive Parts (I : Type) : List Slot → Type where
  | nil : Parts I []
  | name {use : Use} {ss : List Slot} (ident : Located I) (rest : Parts I ss) :
      Parts I (.name use :: ss)
  | names {use : Use} {ss : List Slot} (idents : List (Located I)) (rest : Parts I ss) :
      Parts I (.names use :: ss)
  | generated {ss : List Slot} (ident : I) (rest : Parts I ss) : Parts I (.generated :: ss)
  | node {c : Category} {ss : List Slot} (form : Form c) (inner : Parts I form.slots)
      (rest : Parts I ss) : Parts I (.node c :: ss)
  | located {c : Category} {ss : List Slot} (loc : Location) (form : Form c)
      (inner : Parts I form.slots) (rest : Parts I ss) : Parts I (.located c :: ss)
  /-- An optional slot left empty. -/
  | absent {s : Slot} {ss : List Slot} (rest : Parts I ss) : Parts I (.optional s :: ss)
  /-- An optional slot that is filled. -/
  | present {s : Slot} {ss : List Slot} (item : Parts I [s]) (rest : Parts I ss) :
      Parts I (.optional s :: ss)
  /-- No further item. -/
  | stop {s : Slot} {ss : List Slot} (rest : Parts I ss) : Parts I (.many s :: ss)
  /-- One more item. -/
  | more {s : Slot} {ss : List Slot} (item : Parts I [s]) (rest : Parts I (.many s :: ss)) :
      Parts I (.many s :: ss)
deriving DecidableEq

/-- A node of the given category over identifiers of type `I`. -/
structure Tree (I : Type) (c : Category) where
  form : Form c
  parts : Parts I form.slots
deriving DecidableEq

/-- One source file as the front end analysed it. -/
structure Module (I : Type) where
  name : Option String
  decls : List (Located (Tree I .decl))
deriving DecidableEq

namespace Tree

variable {I : Type}

/-- The shape under which a node is reported. -/
def shape? {c : Category} (t : Tree I c) : Option Shape :=
  t.form.shape?

/-- One right-hand side without guards and local bindings, at the place of its body. -/
def unguarded (body : Located (Tree I .expr)) : Tree I .guardedRhss where
  form := .guardedRhss
  parts :=
    .more (.located body.loc .guardedRhs
        (.stop (.located body.loc body.node.form body.node.parts .nil)) .nil)
      (.stop (.node .noBinds .nil .nil))

end Tree

end Xref
