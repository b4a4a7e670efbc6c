import Mathlib.Data.List.Basic
import Xref.Tree.Basic

/-!
# Modules without wrappers

The type checker puts coercions around expressions and wrappers around the bindings that it
generalised together, and the renamer sorts local bindings into groups. `Module.flatten` takes these
layers off, everywhere in a module: a coercion gives way to the expression in it, a wrapper to its
bindings, and bindings in groups are put in one list.

A tree is flattened from the inside out, so that each node is looked at once, when all that it holds
is flat. `Form.unwrap` and `Form.ungroup` are what happens to a node in its slot, and
`Parts.members` is what becomes of an item in a list.

No layer is left (`Module.isFlat_flatten`). A wrapper of bindings can be taken off only in a list,
where its bindings have room, and the grammar has bindings in lists only (`Form.hasRoom_slots`).
Nothing else is changed: a module without wrappers is flattened to itself
(`Module.flatten_of_isFlat`).
-/

namespace Xref

variable {I : Type}

namespace Parts

/-! ## Parts in a row, and lists of items -/

/-- What fills some slots, and then what fills further ones. -/
def concat {ts : List Slot} :
    {ss : List Slot} → Parts I ss → Parts I ts → Parts I (ss ++ ts)
  | _, nil, q => q
  | _, name ident rest, q => name ident (rest.concat q)
  | _, names idents rest, q => names idents (rest.concat q)
  | _, generated ident rest, q => generated ident (rest.concat q)
  | _, node form inner rest, q => node form inner (rest.concat q)
  | _, located loc form inner rest, q => located loc form inner (rest.concat q)
  | _, absent rest, q => absent (rest.concat q)
  | _, present item rest, q => present item (rest.concat q)
  | _, stop rest, q => stop (rest.concat q)
  | _, more item rest, q => more item (rest.concat q)

/-- The items at a repeated slot, and what fills the slots after it. -/
def Split (I : Type) : List Slot → Type
  | .many s :: ss => List (Parts I [s]) × Parts I ss
  | _ => Unit

/-- Takes apart what fills a repeated slot and the slots after it. -/
def split : {ss : List Slot} → Parts I ss → Split I ss
  | _, stop rest => ([], rest)
  | _, more item rest => (item :: rest.split.1, rest.split.2)
  | _, nil => ()
  | _, name _ _ => ()
  | _, names _ _ => ()
  | _, generated _ _ => ()
  | _, node _ _ _ => ()
  | _, located _ _ _ _ => ()
  | _, absent _ => ()
  | _, present _ _ => ()

/-- Puts items in front of those at a repeated slot. -/
def prepend {s : Slot} {ss : List Slot} (items : List (Parts I [s]))
    (rest : Parts I (.many s :: ss)) : Parts I (.many s :: ss) :=
  items.foldr more rest

/-- Items that were taken apart can be put together again. -/
theorem prepend_split {s : Slot} {ss : List Slot} :
    (p : Parts I (.many s :: ss)) → prepend p.split.1 (stop p.split.2) = p
  | stop _ => rfl
  | more item rest => congrArg (more item) (prepend_split rest)

end Parts

/-! ## Flattening -/

/-- What stands in the place of a node with a location: the expression in it, if it is a coercion,
and else the node. -/
def Form.unwrap : {c : Category} → (form : Form c) → Location → Parts I form.slots →
    Parts I [.located c]
  | _, wrap, _, inner => inner
  | _, form, loc, inner => .located loc form inner .nil

/-- The bindings of a group. -/
def Parts.binds : Parts I [.node .bindGroup] → List (Parts I [.located .bind])
  | node (.bindGroup _) inner nil => inner.split.1

/-- What stands in the place of a node without a location: bindings in one list, if it is bindings
in groups, and else the node. -/
def Form.ungroup : {c : Category} → (form : Form c) → Parts I form.slots → Tree I c
  | _, groupedBinds, inner =>
    ⟨.ungroupedBinds, .prepend (inner.split.1.flatMap Parts.binds) (.stop inner.split.2)⟩
  | _, form, inner => ⟨form, inner⟩

/-- What stands in the place of an item of a list: the bindings in it, if it is a wrapper of
bindings, and else the item. -/
def Parts.members : {s : Slot} → Parts I [s] → List (Parts I [s])
  | _, located _ .absBinds inner nil => inner.split.1
  | _, item => [item]

/-- Takes coercions, wrappers and groups off everything among the parts of a node. -/
def Parts.flatten : {ss : List Slot} → Parts I ss → Parts I ss
  | _, nil => nil
  | _, name ident rest => name ident rest.flatten
  | _, names idents rest => names idents rest.flatten
  | _, generated ident rest => generated ident rest.flatten
  | _, node form inner rest =>
    node (form.ungroup inner.flatten).form (form.ungroup inner.flatten).parts rest.flatten
  | _, located loc form inner rest => (form.unwrap loc inner.flatten).concat rest.flatten
  | _, absent rest => absent rest.flatten
  | _, present item rest => present item.flatten rest.flatten
  | _, stop rest => stop rest.flatten
  | _, more item rest => prepend item.flatten.members rest.flatten

/-- A binding as a declaration. -/
def Parts.toDecl : Parts I [.located .bind] → Located (Tree I .decl)
  | located loc form inner nil => ⟨loc, .valueDecl form, inner⟩

/-- What stands in the place of a declaration: the bindings in it, if it is a wrapper of
bindings, and else the declaration. -/
def Located.flattenDecl : Located (Tree I .decl) → List (Located (Tree I .decl))
  | ⟨_, .valueDecl .absBinds, parts⟩ => parts.flatten.split.1.map Parts.toDecl
  | ⟨loc, form, parts⟩ => [⟨loc, form, parts.flatten⟩]

/-- Takes coercions, wrappers and groups off a module. -/
def Module.flatten (m : Module I) : Module I :=
  ⟨m.name, m.decls.flatMap Located.flattenDecl⟩

/-! ## Flat modules -/

/-- A coercion, a wrapper of bindings, or bindings in groups. -/
def Form.isWrapper : {c : Category} → Form c → Bool
  | _, wrap | _, absBinds | _, groupedBinds => true
  | _, valueDecl form => form.isWrapper
  | _, _ => false

/-- No node among the parts, at whatever depth, is a wrapper. -/
def Parts.isFlat : {ss : List Slot} → Parts I ss → Bool
  | _, nil => true
  | _, name _ rest => rest.isFlat
  | _, names _ rest => rest.isFlat
  | _, generated _ rest => rest.isFlat
  | _, node form inner rest => !form.isWrapper && inner.isFlat && rest.isFlat
  | _, located _ form inner rest => !form.isWrapper && inner.isFlat && rest.isFlat
  | _, absent rest => rest.isFlat
  | _, present item rest => item.isFlat && rest.isFlat
  | _, stop rest => rest.isFlat
  | _, more item rest => item.isFlat && rest.isFlat

/-- No node of the tree is a wrapper. -/
def Tree.isFlat {c : Category} (t : Tree I c) : Bool :=
  !t.form.isWrapper && t.parts.isFlat

/-- No node of the module is a wrapper. -/
def Module.isFlat (m : Module I) : Bool :=
  m.decls.all fun decl => decl.node.isFlat

namespace Parts

theorem isFlat_concat {ss ts : List Slot} (p : Parts I ss) (q : Parts I ts) :
    (p.concat q).isFlat = (p.isFlat && q.isFlat) := by
  induction p with
  | nil => rfl
  | name ident rest ih => exact ih
  | names idents rest ih => exact ih
  | generated ident rest ih => exact ih
  | node form inner rest _ ih =>
    show (!form.isWrapper && inner.isFlat && (rest.concat q).isFlat) = _
    rw [ih, ← Bool.and_assoc]
    rfl
  | located loc form inner rest _ ih =>
    show (!form.isWrapper && inner.isFlat && (rest.concat q).isFlat) = _
    rw [ih, ← Bool.and_assoc]
    rfl
  | absent rest ih => exact ih
  | present item rest _ ih =>
    show (item.isFlat && (rest.concat q).isFlat) = _
    rw [ih, ← Bool.and_assoc]
    rfl
  | stop rest ih => exact ih
  | more item rest _ ih =>
    show (item.isFlat && (rest.concat q).isFlat) = _
    rw [ih, ← Bool.and_assoc]
    rfl

theorem isFlat_prepend {s : Slot} {ss : List Slot} (items : List (Parts I [s]))
    (rest : Parts I (.many s :: ss)) :
    (prepend items rest).isFlat = (items.all isFlat && rest.isFlat) := by
  induction items with
  | nil => rfl
  | cons item items ih =>
    show (item.isFlat && (prepend items rest).isFlat) = _
    rw [ih, ← Bool.and_assoc]
    rfl

/-- Flat parts have flat items, and flat parts after them. -/
theorem isFlat_split {s : Slot} {ss : List Slot} {p : Parts I (.many s :: ss)}
    (h : p.isFlat = true) : p.split.1.all isFlat = true ∧ p.split.2.isFlat = true := by
  rw [← prepend_split p, isFlat_prepend, Bool.and_eq_true] at h
  exact h

/-- The bindings of a flat group are flat. -/
theorem isFlat_binds {group : Parts I [.node .bindGroup]} (h : group.isFlat = true) :
    group.binds.all isFlat = true := by
  cases group with
  | node form inner rest =>
    cases form with
    | bindGroup recursive =>
      cases rest with
      | nil =>
        have hinner : inner.isFlat = true := by simpa [isFlat, Form.isWrapper] using h
        exact (isFlat_split hinner).1

/-- All that the first node holds and all after it is flat. -/
def isFlatInside : {ss : List Slot} → Parts I ss → Bool
  | _, located _ _ inner rest => inner.isFlat && rest.isFlat
  | _, p => p.isFlat

/-- A flat item is no wrapper, and stays by itself. -/
theorem members_of_isFlat {s : Slot} {item : Parts I [s]} (h : item.isFlat = true) :
    item.members = [item] := by
  cases item with
  | located loc form inner rest =>
    cases rest with
    | nil =>
      cases form with
      | absBinds => cases h
      | _ => rfl
  | _ => rfl

/-- Where a binding is flat inside, what takes its place is flat. -/
theorem isFlat_members_bind {item : Parts I [.located .bind]} (h : item.isFlatInside = true) :
    item.members.all isFlat = true := by
  cases item with
  | located loc form inner rest =>
    cases rest with
    | nil =>
      have hinner : inner.isFlat = true := by simpa [isFlatInside, isFlat] using h
      cases form with
      | absBinds => exact (isFlat_split hinner).1
      | _ =>
        show (!false && inner.isFlat && true && true) = true
        rw [hinner]
        rfl

end Parts

/-! ## Flattening leaves no wrapper -/

/-- A wrapper in the slot can be taken off: coercions have a location, bindings in groups have none,
and bindings stand in a list. -/
def Slot.hasRoom : Slot → Bool
  | node c => c ≠ .expr ∧ c ≠ .bind ∧ c ≠ .decl
  | located c => c ≠ .bind ∧ c ≠ .localBinds ∧ c ≠ .decl
  | optional slot => slot.hasRoom
  | many (located .bind) => true
  | many slot => slot.hasRoom
  | name _ | names _ | generated => true

/-- The items of a list have room, bindings in any case. -/
theorem Slot.hasRoom_of_many {slot : Slot} (h : (many slot).hasRoom = true) :
    slot = .located .bind ∨ slot.hasRoom = true := by
  cases slot with
  | located c =>
    cases c with
    | bind => exact .inl rfl
    | _ => exact .inr h
  | _ => exact .inr h

/-- Wherever the grammar lets a wrapper stand, it can be taken off. -/
theorem Form.hasRoom_slots {c : Category} (form : Form c) :
    ∀ slot ∈ form.slots, slot.hasRoom = true := by
  have hall : form.slots.all Slot.hasRoom = true := by
    induction form with
    | valueDecl form ih => exact ih
    | signatureDecl form ih => exact ih
    | typeDecl form ih => exact ih
    | instanceDecl form ih => exact ih
    -- No other form is made of one, and its slots can be read off the grammar.
    | _ => rfl
  exact List.all_eq_true.mp hall

theorem Form.isFlat_unwrap {c : Category} (form : Form c) (hc : (Slot.located c).hasRoom = true)
    (loc : Location) {inner : Parts I form.slots} (h : inner.isFlat = true) :
    (form.unwrap loc inner).isFlat = true := by
  cases form with
  | wrap => exact h
  -- The other wrappers stand in no slot of this kind.
  | absBinds => cases hc
  | groupedBinds => cases hc
  | valueDecl form => cases hc
  | _ =>
    show (!false && inner.isFlat && true) = true
    rw [h]
    rfl

theorem Form.isFlat_ungroup {c : Category} (form : Form c) (hc : (Slot.node c).hasRoom = true)
    {inner : Parts I form.slots} (h : inner.isFlat = true) :
    (form.ungroup inner).isFlat = true := by
  cases form with
  | groupedBinds =>
    obtain ⟨hgroups, hsigs⟩ := Parts.isFlat_split h
    show (!false && (Parts.prepend (inner.split.1.flatMap Parts.binds)
      (.stop inner.split.2)).isFlat) = true
    have hbinds : (inner.split.1.flatMap Parts.binds).all Parts.isFlat = true := by
      rw [List.all_flatMap, List.all_eq_true]
      exact fun group hgroup => Parts.isFlat_binds (List.all_eq_true.mp hgroups group hgroup)
    rw [Parts.isFlat_prepend, hbinds]
    exact hsigs
  -- The other wrappers stand in no slot of this kind.
  | wrap => cases hc
  | absBinds => cases hc
  | valueDecl form => cases hc
  | _ => exact h

/-- What fills slots with room is flattened to flat parts. A single binding has no room to be taken
apart, and is flattened inside. -/
theorem Parts.isFlat_flatten_or_inside {ss : List Slot} (p : Parts I ss) :
    ((∀ slot ∈ ss, slot.hasRoom = true) → p.flatten.isFlat = true) ∧
      (ss = [.located .bind] → p.flatten.isFlatInside = true) := by
  induction p with
  | nil => exact ⟨fun _ => rfl, nofun⟩
  | name ident rest ih => exact ⟨fun h => ih.1 (List.forall_mem_cons.mp h).2, nofun⟩
  | names idents rest ih => exact ⟨fun h => ih.1 (List.forall_mem_cons.mp h).2, nofun⟩
  | generated ident rest ih => exact ⟨fun h => ih.1 (List.forall_mem_cons.mp h).2, nofun⟩
  | node form inner rest ihInner ih =>
    refine ⟨fun h => ?_, nofun⟩
    obtain ⟨hslot, hrest⟩ := List.forall_mem_cons.mp h
    have htree := form.isFlat_ungroup hslot (ihInner.1 form.hasRoom_slots)
    rw [flatten, isFlat, ih.1 hrest, Bool.and_true]
    exact htree
  | located loc form inner rest ihInner ih =>
    have hinner := ihInner.1 form.hasRoom_slots
    constructor
    · intro h
      obtain ⟨hslot, hrest⟩ := List.forall_mem_cons.mp h
      rw [flatten]
      refine (isFlat_concat _ _).trans ?_
      rw [form.isFlat_unwrap hslot loc hinner, ih.1 hrest]
      rfl
    · intro h
      cases h
      cases rest with
      | nil =>
        -- A binding is no coercion, so it stays where it is.
        have hstays : (located loc form inner nil).flatten =
            located loc form inner.flatten nil := by
          cases form <;> rfl
        rw [hstays, isFlatInside, hinner]
        rfl
  | absent rest ih => exact ⟨fun h => ih.1 (List.forall_mem_cons.mp h).2, nofun⟩
  | present item rest ihItem ih =>
    refine ⟨fun h => ?_, nofun⟩
    obtain ⟨hslot, hrest⟩ := List.forall_mem_cons.mp h
    rw [flatten, isFlat, ihItem.1 (List.forall_mem_singleton.mpr hslot), ih.1 hrest]
    rfl
  | stop rest ih => exact ⟨fun h => ih.1 (List.forall_mem_cons.mp h).2, nofun⟩
  | @more slot ss item rest ihItem ih =>
    refine ⟨fun h => ?_, nofun⟩
    obtain ⟨hslot, -⟩ := List.forall_mem_cons.mp h
    have hmembers : item.flatten.members.all isFlat = true := by
      rcases Slot.hasRoom_of_many hslot with rfl | hroom
      · -- A wrapper of bindings gives way to what it holds.
        exact isFlat_members_bind (ihItem.2 rfl)
      · have hitem := ihItem.1 (List.forall_mem_singleton.mpr hroom)
        rw [members_of_isFlat hitem, List.all_cons, hitem]
        rfl
    rw [flatten, isFlat_prepend, hmembers, ih.1 h]
    rfl

/-- What a node holds is flattened to flat parts. -/
theorem Form.isFlat_flatten {c : Category} (form : Form c) (p : Parts I form.slots) :
    p.flatten.isFlat = true :=
  p.isFlat_flatten_or_inside.1 form.hasRoom_slots

/-- A binding that is no wrapper and flat inside is a flat declaration. -/
theorem Parts.isFlat_toDecl {item : Parts I [.located .bind]} (h : item.isFlat = true) :
    item.toDecl.node.isFlat = true := by
  cases item with
  | located loc form inner rest =>
    cases rest with
    | nil =>
      have hbind : (!form.isWrapper && inner.isFlat && true) = true := h
      rw [Bool.and_true] at hbind
      exact hbind

/-- A declaration is flattened to flat ones. -/
theorem Located.isFlat_of_mem_flattenDecl {decl flat : Located (Tree I .decl)}
    (h : flat ∈ decl.flattenDecl) : flat.node.isFlat = true := by
  obtain ⟨loc, form, parts⟩ := decl
  have hparts := form.isFlat_flatten parts
  have hself (hform : form.isWrapper = false) (hflat : flat = ⟨loc, form, parts.flatten⟩) :
      flat.node.isFlat = true := by
    subst hflat
    show (!form.isWrapper && parts.flatten.isFlat) = true
    rw [hform, hparts]
    rfl
  cases form with
  | valueDecl form =>
    cases form with
    | absBinds =>
      -- The bindings stood in a list, where wrappers among them are already taken off.
      obtain ⟨item, hitem, rfl⟩ := List.mem_map.mp h
      exact Parts.isFlat_toDecl (List.all_eq_true.mp (Parts.isFlat_split hparts).1 item hitem)
    | _ => exact hself rfl (List.mem_singleton.mp h)
  | _ => exact hself rfl (List.mem_singleton.mp h)

/-- No wrapper is left in a flattened module. -/
theorem Module.isFlat_flatten (m : Module I) : m.flatten.isFlat = true := by
  refine List.all_eq_true.mpr fun flat hflat => ?_
  obtain ⟨decl, -, hmem⟩ := List.mem_flatMap.mp hflat
  exact Located.isFlat_of_mem_flattenDecl hmem

/-! ## Flat modules stay as they are -/

theorem Form.unwrap_of_not_isWrapper {c : Category} {form : Form c} (h : form.isWrapper = false)
    (loc : Location) (inner : Parts I form.slots) :
    form.unwrap loc inner = .located loc form inner .nil := by
  cases form with
  | wrap => cases h
  | _ => rfl

theorem Form.ungroup_of_not_isWrapper {c : Category} {form : Form c} (h : form.isWrapper = false)
    (inner : Parts I form.slots) : form.ungroup inner = ⟨form, inner⟩ := by
  cases form with
  | groupedBinds => cases h
  | _ => rfl

theorem Parts.flatten_of_isFlat {ss : List Slot} {p : Parts I ss} (h : p.isFlat = true) :
    p.flatten = p := by
  induction p with
  | nil => rfl
  | name ident rest ih => rw [flatten, ih h]
  | names idents rest ih => rw [flatten, ih h]
  | generated ident rest ih => rw [flatten, ih h]
  | node form inner rest ihInner ih =>
    obtain ⟨⟨hform, hinner⟩, hrest⟩ :
        (form.isWrapper = false ∧ inner.isFlat = true) ∧ rest.isFlat = true := by
      simpa [isFlat] using h
    rw [flatten, ihInner hinner, ih hrest, form.ungroup_of_not_isWrapper hform]
  | located loc form inner rest ihInner ih =>
    obtain ⟨⟨hform, hinner⟩, hrest⟩ :
        (form.isWrapper = false ∧ inner.isFlat = true) ∧ rest.isFlat = true := by
      simpa [isFlat] using h
    rw [flatten, ihInner hinner, ih hrest, form.unwrap_of_not_isWrapper hform]
    rfl
  | absent rest ih => rw [flatten, ih h]
  | present item rest ihItem ih =>
    obtain ⟨hitem, hrest⟩ := (Bool.and_eq_true _ _).mp h
    rw [flatten, ihItem hitem, ih hrest]
  | stop rest ih => rw [flatten, ih h]
  | more item rest ihItem ih =>
    obtain ⟨hitem, hrest⟩ := (Bool.and_eq_true _ _).mp h
    rw [flatten, ihItem hitem, ih hrest, members_of_isFlat hitem]
    rfl

theorem Located.flattenDecl_of_isFlat {decl : Located (Tree I .decl)}
    (h : decl.node.isFlat = true) : decl.flattenDecl = [decl] := by
  obtain ⟨loc, form, parts⟩ := decl
  obtain ⟨hform, hparts⟩ := (Bool.and_eq_true _ _).mp h
  have hself : [⟨loc, form, parts.flatten⟩] = [(⟨loc, form, parts⟩ : Located (Tree I .decl))] := by
    rw [Parts.flatten_of_isFlat hparts]
  cases form with
  | valueDecl form =>
    cases form with
    | absBinds => cases hform
    | _ => exact hself
  | _ => exact hself

/-- A module without wrappers is flattened to itself. -/
theorem Module.flatten_of_isFlat {m : Module I} (h : m.isFlat = true) : m.flatten = m := by
  have hdecls : m.decls.flatMap Located.flattenDecl = m.decls.flatMap fun decl => [decl] :=
    List.flatMap_congr fun decl hdecl =>
      Located.flattenDecl_of_isFlat (List.all_eq_true.mp h decl hdecl)
  unfold flatten
  rw [hdecls, List.flatMap_singleton']

end Xref
