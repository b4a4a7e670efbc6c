import Xref.Indexing.Module

/-!
# Changing the identifiers of a tree

`Module.map f g` puts `f i` for every identifier `i` that has a location, and `g i` for every
generated one. The outline changes by `f` alone (`Module.outline_map`), since the variable of a
generated binding stands nowhere in the text. So generated identifiers can be put in at will without
any effect on an index (`Module.indexed_map_generated`).
-/

namespace Xref

variable {I J : Type}

/-! ## Maps -/

/-- Changes the identifiers of parts: those with a location by `f`, generated ones by `g`. -/
def Parts.map (f g : I → J) : {ss : List Slot} → Parts I ss → Parts J ss
  | _, nil => nil
  | _, name ident rest => name (ident.map f) (rest.map f g)
  | _, names idents rest => names (idents.map (Located.map f)) (rest.map f g)
  | _, generated ident rest => generated (g ident) (rest.map f g)
  | _, node form inner rest => node form (inner.map f g) (rest.map f g)
  | _, located loc form inner rest => located loc form (inner.map f g) (rest.map f g)
  | _, absent rest => absent (rest.map f g)
  | _, present item rest => present (item.map f g) (rest.map f g)
  | _, stop rest => stop (rest.map f g)
  | _, more item rest => more (item.map f g) (rest.map f g)

/-- Changes the identifiers of a node. -/
def Tree.map {c : Category} (f g : I → J) (t : Tree I c) : Tree J c :=
  ⟨t.form, t.parts.map f g⟩

/-- Changes the identifiers of a module. -/
def Module.map (f g : I → J) (m : Module I) : Module J :=
  ⟨m.name, m.decls.map (Located.map (Tree.map f g))⟩

namespace Outline

/-- Changes the identifiers of an outline. -/
def map (f : I → J) : Outline I → Outline J
  | nil => nil
  | name use ident rest => name use (ident.map f) (rest.map f)
  | node shape loc inner rest => node shape loc (inner.map f) (rest.map f)

theorem map_append (f : I → J) (a b : Outline I) : (a ++ b).map f = a.map f ++ b.map f := by
  induction a with
  | nil => rfl
  | name use ident rest ih => rw [name_append, map, map, ih, name_append]
  | node shape loc inner rest _ ih => rw [node_append, map, map, ih, node_append]

theorem map_ofNames (f : I → J) (use : Use) (idents : List (Located I)) :
    (ofNames use idents).map f = ofNames use (idents.map (Located.map f)) := by
  induction idents with
  | nil => rfl
  | cons ident idents ih =>
    show (name use ident (ofNames use idents)).map f = _
    rw [map, ih]
    rfl

theorem map_enclose (f : I → J) (shape? : Option Shape) (loc : Location) (inner : Outline I) :
    (enclose shape? loc inner).map f = enclose shape? loc (inner.map f) := by
  cases shape? <;> rfl

theorem map_id (o : Outline I) : o.map id = o := by
  induction o with
  | nil => rfl
  | name use ident rest ih => rw [map, ih]; rfl
  | node shape loc inner rest ihInner ih => rw [map, ihInner, ih]

end Outline

/-! ## Outlines -/

/-- The outline of parts with other identifiers. Generated ones are no part of it. -/
theorem Parts.outline_map (f g : I → J) {ss : List Slot} (p : Parts I ss) (loc : Location) :
    (p.map f g).outline loc = (p.outline loc).map f := by
  induction p generalizing loc with
  | nil => rfl
  | name ident rest ih => rw [map, outline, outline, Outline.map, ih]
  | names idents rest ih =>
    rw [map, outline, outline, Outline.map_append, Outline.map_ofNames, ih]
  | generated ident rest ih => rw [map, outline, outline, ih]
  | node form inner rest ihInner ih =>
    rw [map, outline, outline, Outline.map_append, Outline.map_enclose, ihInner, ih]
  | located own form inner rest ihInner ih =>
    rw [map, outline, outline, Outline.map_append, Outline.map_enclose, ihInner, ih]
  | absent rest ih => rw [map, outline, outline, ih]
  | present item rest ihItem ih =>
    rw [map, outline, outline, Outline.map_append, ihItem, ih]
  | stop rest ih => rw [map, outline, outline, ih]
  | more item rest ihItem ih =>
    rw [map, outline, outline, Outline.map_append, ihItem, ih]

/-- The outline of a module with other identifiers. -/
theorem Module.outline_map (f g : I → J) (m : Module I) :
    (m.map f g).outline = m.outline.map f := by
  show Outline.ofDecls (m.decls.map (Located.map (Tree.map f g))) = (Outline.ofDecls m.decls).map f
  induction m.decls with
  | nil => rfl
  | cons decl decls ih =>
    have hdecl : (decl.node.map f g).outline decl.loc = (decl.node.outline decl.loc).map f := by
      unfold Tree.outline Tree.map
      rw [Parts.outline_map, Outline.map_enclose]
    show (decl.node.map f g).outline decl.loc ++ Outline.ofDecls (decls.map _) =
      (decl.node.outline decl.loc ++ Outline.ofDecls decls).map f
    rw [hdecl, ih, Outline.map_append]

/-- Indexing a module does not look at its generated identifiers. -/
theorem Module.indexed_map_generated (g : I → I) (m : Module I) (reading : Reading I)
    (config : Config) (phase : Phase) :
    (m.map id g).indexed reading config phase = m.indexed reading config phase := by
  unfold Module.indexed
  rw [outline_map, Outline.map_id]

end Xref
