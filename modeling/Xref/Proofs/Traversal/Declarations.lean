import Xref.Indexing.Module
import Xref.Proofs.Index.Band
import Xref.Proofs.Index.History
import Xref.Proofs.Traversal.Sequence
import Xref.Proofs.Traversal.Sites

/-!
# Declarations in sequence

Nothing is carried over from one declaration to the next: a module can be indexed in pieces, and the
results put together afterwards. The walk through a list of declarations is the walk through its
first part and then through its second (`Outline.ofDecls_append`), and the index of two traces in a
row is the union of their indices, in which the later trace prevails (`Trace.indexed_append`). So
indexing maps the concatenation of declarations to `Indexed.andThen`, with the first error told
(`Module.indexed_append`).
-/

namespace Xref

variable {I : Type}

/-- The outline of declarations in two parts. -/
theorem Outline.ofDecls_append (a b : List (Located (Tree I .decl))) :
    ofDecls (a ++ b) = ofDecls a ++ ofDecls b := by
  induction a with
  | nil => rfl
  | cons decl a ih =>
    show decl.node.outline decl.loc ++ ofDecls (a ++ b) = _
    rw [ih, ← Outline.append_assoc]
    rfl

namespace Index

/-- The indices have no span in common. -/
def Disjoint (a b : Index) : Prop :=
  ∀ e ∈ a.entries, b.contains e.1 = false

instance (a b : Index) : Decidable (a.Disjoint b) :=
  inferInstanceAs (Decidable (∀ e ∈ a.entries, b.contains e.1 = false))

/-- Where no span is common there is nothing to disagree on. -/
theorem Disjoint.agree {a b : Index} (h : a.Disjoint b) : a.Agree b := by
  intro s ha hb
  obtain ⟨r, hr⟩ := Option.isSome_iff_exists.mp ha
  have hfree : b.contains s = false := h (s, r) (mem_entries_iff.mpr hr)
  rw [hfree] at hb
  cases hb

end Index

/-- One result after another: the records of the second count, and its reports come last. -/
def Indexed.andThen (first second : Indexed) : Indexed :=
  ⟨second.index.combine first.index, first.diagnostics ++ second.diagnostics⟩

/-- The result of two traces in a row is that of the second after that of the first. -/
theorem Trace.indexed_append (phase : Phase) (s t : Trace) :
    (s ++ t).indexed phase = (s.indexed phase).andThen (t.indexed phase) := by
  unfold Trace.indexed Indexed.andThen
  rw [entries_append, gaps_append, List.map_append, Index.combine_ofPairs]

namespace Module

variable {reading : Reading I} {config : Config} {phase : Phase}

/-- Indexing declarations in two parts. The name of a module has no part in it. -/
theorem indexed_append (name : Option String) (m m' : Module I) :
    indexed ⟨name, m.decls ++ m'.decls⟩ reading config phase = do
      let first ← m.indexed reading config phase
      let second ← m'.indexed reading config phase
      return first.andThen second := by
  unfold indexed outline
  rw [Outline.ofDecls_append, Outline.trace_append]
  cases (Outline.ofDecls m.decls).trace reading config with
  | error e => rfl
  | ok s =>
    cases (Outline.ofDecls m'.decls).trace reading config with
    | error e => rfl
    | ok t => exact congrArg Except.ok (Trace.indexed_append phase s t)

/-- Both parts can be indexed, so the whole can. -/
theorem indexed_append_of_ok {m m' : Module I} {r r' : Indexed}
    (h : m.indexed reading config phase = .ok r) (h' : m'.indexed reading config phase = .ok r')
    (name : Option String) :
    indexed ⟨name, m.decls ++ m'.decls⟩ reading config phase = .ok (r.andThen r') := by
  rw [indexed_append, h, h']
  rfl

/-- The declarations of `m` and then those of `m'` are indexed part by part. The error of the first
part is told if there is one, and else that of the second. If both parts can be indexed, the index
of the whole is the union of theirs, where the later part prevails, and the reports of the first
part come before those of the second. So two parts without a common span can be exchanged, and the
index stays the same. -/
theorem indexed_decls_append (m m' : Module I) (name : Option String) (reading : Reading I)
    (config : Config) (phase : Phase) :
    let first := m.indexed reading config phase
    let second := m'.indexed reading config phase
    let whole := indexed ⟨name, m.decls ++ m'.decls⟩ reading config phase
    let swapped := indexed ⟨name, m'.decls ++ m.decls⟩ reading config phase
    (∀ e, first = .error e → whole = .error e) ∧
    (∀ r e, first = .ok r → second = .error e → whole = .error e) ∧
    (∀ r r', first = .ok r → second = .ok r' →
      whole = .ok ⟨r'.index.combine r.index, r.diagnostics ++ r'.diagnostics⟩) ∧
    ∀ r r', first = .ok r → second = .ok r' → r.index.Disjoint r'.index →
      ∃ i, whole = .ok ⟨i, r.diagnostics ++ r'.diagnostics⟩ ∧
        swapped = .ok ⟨i, r'.diagnostics ++ r.diagnostics⟩ := by
  dsimp only
  refine ⟨fun e he => ?_, fun r e hr he => ?_, fun r r' hr hr' => ?_, fun r r' hr hr' hdisjoint => ?_⟩
  · rw [indexed_append, he]
    rfl
  · rw [indexed_append, hr, he]
    rfl
  · exact indexed_append_of_ok hr hr' name
  · refine ⟨r'.index.combine r.index, indexed_append_of_ok hr hr' name, ?_⟩
    rw [← Index.combine_comm_iff.mpr hdisjoint.agree]
    exact indexed_append_of_ok hr' hr name

end Module

/-- After the signature `f, g :: T` comes a fixity declaration of both names. In neither of them `g`
has a place. The two have no span in common, so the fixity can as well come first: the reports
change places, and the index is the same. -/
theorem signatureModule_followed :
    let m := signatureModule (.placeholder "generated") "var"
    let fixity : Module Name :=
      ⟨none, [⟨.known (.onLine "T.hs" 2 1 9), .signatureDecl (.fixitySig 7),
        .names [⟨.known (.onLine "T.hs" 2 9 9), .builtIn "f" "var"⟩,
          ⟨.placeholder "implicit", .builtIn "g" "var"⟩] .nil⟩]⟩
    let imprecise := fun description => Gap.diagnostic .renamed (.imprecise "g" description)
    ∃ i, i.size = 3 ∧
      Module.indexed ⟨none, m.decls ++ fixity.decls⟩ .resolved {} .renamed =
        .ok ⟨i, [imprecise "generated", imprecise "implicit"]⟩ ∧
      Module.indexed ⟨none, fixity.decls ++ m.decls⟩ .resolved {} .renamed =
        .ok ⟨i, [imprecise "implicit", imprecise "generated"]⟩ := by
  intro m fixity imprecise
  obtain ⟨-, -, -, hswap⟩ := Module.indexed_decls_append m fixity none .resolved {} .renamed
  obtain ⟨i, hwhole, hswapped⟩ := hswap _ _ rfl rfl (by decide +kernel)
  cases hwhole
  exact ⟨_, by decide +kernel, rfl, hswapped⟩

end Xref
