import Xref.Tree.Basic

/-!
# Outlines of trees

The outline of a tree is all that an index can see of it: the names that stand at a place of their
own, each bound or referred to, and the shaped nodes around them, in the order of the text. What an
index does with names and shapes is said over outlines.

A node that has no location of its own (alternatives, right-hand sides and local bindings) takes the
location of the nearest node around it.

All nodes with a shape are in the outline, also declarations and implicit parameters that are never
looked into, so a walk asks of all of them whether their shapes are supported. To pass over these
nodes without asking comes to the same: a `Support` holds implemented shapes only, and theirs are
not (`Form.isImplemented_eq_false_iff`). The pass of `Module.indexed_eq_collect` does so.
-/

namespace Xref

/-- Names and shaped nodes in the order of the text. -/
inductive Outline (I : Type) where
  | nil
  /-- A name, then the rest. -/
  | name (use : Use) (ident : Located I) (rest : Outline I)
  /-- A node with what it holds, then the rest. -/
  | node (shape : Shape) (loc : Location) (inner rest : Outline I)

namespace Outline

variable {I : Type}

/-- One outline after the other. -/
def append : Outline I → Outline I → Outline I
  | nil, o => o
  | name use ident rest, o => name use ident (rest.append o)
  | node shape loc inner rest, o => node shape loc inner (rest.append o)

instance : Append (Outline I) := ⟨append⟩

/-- Names that are all used in one way, in order. -/
def ofNames (use : Use) (idents : List (Located I)) : Outline I :=
  idents.foldr (name use) nil

/-- Puts a node of the given shape, if there is one, around an outline. -/
def enclose (shape? : Option Shape) (loc : Location) (inner : Outline I) : Outline I :=
  match shape? with
  | some shape => node shape loc inner nil
  | none => inner

@[simp]
theorem nil_append (o : Outline I) : nil ++ o = o :=
  rfl

@[simp]
theorem name_append (use : Use) (ident : Located I) (rest o : Outline I) :
    name use ident rest ++ o = name use ident (rest ++ o) :=
  rfl

@[simp]
theorem node_append (shape : Shape) (loc : Location) (inner rest o : Outline I) :
    node shape loc inner rest ++ o = node shape loc inner (rest ++ o) :=
  rfl

@[simp]
theorem append_nil (o : Outline I) : o ++ nil = o := by
  induction o with
  | nil => rfl
  | name use ident rest ih => simp [ih]
  | node shape loc inner rest _ ih => simp [ih]

@[simp]
theorem append_assoc (a b c : Outline I) : a ++ b ++ c = a ++ (b ++ c) := by
  induction a with
  | nil => rfl
  | name use ident rest ih => simp [ih]
  | node shape loc inner rest _ ih => simp [ih]

end Outline

variable {I : Type}

/-- The outline of parts where `loc` is the location of the node that they belong to. -/
def Parts.outline : {ss : List Slot} → Parts I ss → Location → Outline I
  | [], nil, _ => .nil
  | .name use :: _, name ident rest, loc => .name use ident (rest.outline loc)
  | .names use :: _, names idents rest, loc => .ofNames use idents ++ rest.outline loc
  | _, generated _ rest, loc => rest.outline loc
  | _, node form inner rest, loc =>
    .enclose form.shape? loc (inner.outline loc) ++ rest.outline loc
  | _, located own form inner rest, loc =>
    .enclose form.shape? own (inner.outline own) ++ rest.outline loc
  | _, absent rest, loc => rest.outline loc
  | _, present item rest, loc => item.outline loc ++ rest.outline loc
  | _, stop rest, loc => rest.outline loc
  | _, more item rest, loc => item.outline loc ++ rest.outline loc

/-- The outline of a node at the given location. -/
def Tree.outline {c : Category} (t : Tree I c) (loc : Location) : Outline I :=
  .enclose t.form.shape? loc (t.parts.outline loc)

/-- The outline of declarations, each at its own location. -/
def Outline.ofDecls (decls : List (Located (Tree I .decl))) : Outline I :=
  decls.foldr (fun decl rest => decl.node.outline decl.loc ++ rest) .nil

/-- The outline of a module. -/
def Module.outline (m : Module I) : Outline I :=
  .ofDecls m.decls

end Xref
