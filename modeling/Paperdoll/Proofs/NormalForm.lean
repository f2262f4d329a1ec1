import Paperdoll.Proofs.Pointwise

/-!
# Normal forms: recolorings without idle parts

A tree may be full of parts that do nothing: `same`, or a table without pairs. It is in **normal
form** if there are none, but for `same` as the whole tree. A byte string is left alone at once only
if the tree is `same`, so it is the normal form that keeps idle recolorings from looking at pixels.

**Theorem (`built_isNormal`).** What is built by the smart constructors and from directives, nested
in any way, is in normal form, and every normal form is built so. Such a recoloring is `same`
exactly if its depth is zero. The depth of what is built from directives is the number of those that
recolor and have an argument that is not empty. How compositions are bracketed does not show in what
they do, in the depth or in the tables; and `same` drops out of a composition on either side.

Normal forms are spoken of through the parts of a tree (`HasPart`). That is the same as a condition
on the leaves (`isNormal_iff`), which one constructor after the other is seen to keep. A tree is put
together again from its own leaves (`rebuild_of_isNormal`), so nothing but normal forms is missing
from what can be built.
-/

namespace Paperdoll

/-! ## Tables without pairs -/

theorem Substitution.isEmpty_insertArgs {s t : Substitution} {args : List String}
    (h : s.insertArgs args = .ok t) : t.isEmpty = (s.isEmpty && args.all String.isEmpty) := by
  induction args generalizing s with
  | nil =>
    cases h
    exact (Bool.and_true t.isEmpty).symm
  | cons arg rest ih =>
    unfold insertArgs at h
    by_cases empty : arg.isEmpty
    · rw [if_pos empty] at h
      rw [ih h, List.all_cons, empty, Bool.true_and]
    · rw [if_neg empty] at h
      obtain ⟨⟨source, target⟩, -, run⟩ := Error.bind_eq_ok.1 h
      have filled : (s.insert source target).isEmpty = false := Std.TreeMap.isEmpty_insert
      rw [ih run, filled, List.all_cons, Bool.eq_false_iff.2 empty, Bool.false_and, Bool.and_false]

theorem Substitution.isEmpty_ofArgs {t : Substitution} {args : List String}
    (h : ofArgs args = .ok t) : t.isEmpty = args.all String.isEmpty := by
  rw [isEmpty_insertArgs h]
  rfl

/-- The directive recolors, and one of its arguments is not empty. -/
def Directive.recolors (d : Directive) : Bool :=
  d.isReplace && d.args.any fun arg => !arg.isEmpty

namespace Recoloring

variable {m outer inner : Recoloring} {ds : List Directive}

/-! ## Normal forms -/

/-- A part stands at a node of the tree. -/
inductive HasPart : Recoloring → Recoloring → Prop
  | whole (m : Recoloring) : HasPart m m
  | outer (inner : Recoloring) {outer part : Recoloring} (h : HasPart outer part) :
    HasPart (after outer inner) part
  | inner (outer : Recoloring) {inner part : Recoloring} (h : HasPart inner part) :
    HasPart (after outer inner) part

/-- No part does nothing, but for `same` as the whole tree. -/
structure IsNormal (m : Recoloring) : Prop where
  /-- There is no `same` below a composition. -/
  no_same : ∀ outer inner, m.HasPart (after outer inner) →
    ¬ outer.HasPart same ∧ ¬ inner.HasPart same
  /-- There is no table without pairs. -/
  no_empty : ∀ s, m.HasPart (table s) → ¬ s.isEmpty

/-- Every leaf is a table with pairs. -/
def Busy : Recoloring → Prop
  | same => False
  | table s => ¬ s.isEmpty
  | after outer inner => outer.Busy ∧ inner.Busy

theorem Busy.part {other : Recoloring} (busy : m.Busy) (h : m.HasPart other) : other.Busy := by
  induction h with
  | whole m => exact busy
  | outer inner h ih => exact ih busy.1
  | inner outer h ih => exact ih busy.2

theorem busy_of_parts (no_same : ¬ m.HasPart same)
    (no_empty : ∀ s, m.HasPart (table s) → ¬ s.isEmpty) : m.Busy := by
  induction m with
  | same => exact no_same (.whole same)
  | table s => exact no_empty s (.whole _)
  | after outer inner outerBusy innerBusy =>
    exact ⟨outerBusy (fun h => no_same (.outer inner h)) fun s h => no_empty s (.outer inner h),
      innerBusy (fun h => no_same (.inner outer h)) fun s h => no_empty s (.inner outer h)⟩

theorem Busy.isNormal (busy : m.Busy) : m.IsNormal where
  no_same _ _ h :=
    have below := busy.part h
    ⟨fun idle => below.1.part idle, fun idle => below.2.part idle⟩
  no_empty _ h := busy.part h

theorem isNormal_same : IsNormal same where
  no_same outer inner h := by cases h
  no_empty s h := by cases h

/-- **Normal forms by their leaves.** -/
theorem isNormal_iff : m.IsNormal ↔ m = same ∨ m.Busy := by
  constructor
  · intro normal
    cases m with
    | same => exact .inl rfl
    | table s => exact .inr (normal.no_empty s (.whole _))
    | after outer inner =>
      obtain ⟨outerParts, innerParts⟩ := normal.no_same outer inner (.whole _)
      exact .inr ⟨busy_of_parts outerParts fun s h => normal.no_empty s (.outer inner h),
        busy_of_parts innerParts fun s h => normal.no_empty s (.inner outer h)⟩
  · rintro (rfl | busy)
    · exact isNormal_same
    · exact busy.isNormal

theorem Busy.depth_pos (busy : m.Busy) : 0 < m.depth := by
  induction m with
  | same => exact busy.elim
  | table s => exact Nat.one_pos
  | after outer inner outerDepth innerDepth => exact Nat.add_pos_left (outerDepth busy.1) _

theorem IsNormal.isSame_iff (normal : m.IsNormal) : m.isSame ↔ m.depth = 0 := by
  rcases isNormal_iff.1 normal with rfl | busy
  · exact ⟨fun _ => rfl, fun _ => rfl⟩
  · have deep := busy.depth_pos
    cases m with
    | same => exact busy.elim
    | table s => simp [isSame, depth]
    | after outer inner => simp only [isSame, Bool.false_eq_true, false_iff]; omega

/-! ## What the constructors keep -/

theorem isNormal_replace (s : Substitution) : (replace s).IsNormal := by
  unfold replace
  by_cases empty : s.isEmpty
  · rw [if_pos empty]
    exact isNormal_same
  · rw [if_neg empty]
    exact Busy.isNormal empty

theorem compose_same (m : Recoloring) : m.compose same = m := by
  cases m <;> rfl

theorem compose_of_busy (outerBusy : outer.Busy) (innerBusy : inner.Busy) :
    outer.compose inner = after outer inner := by
  fun_cases compose outer inner with
  | case1 => exact outerBusy.elim
  | case2 => exact innerBusy.elim
  | case3 => rfl

theorem isNormal_compose (outerNormal : outer.IsNormal) (innerNormal : inner.IsNormal) :
    (outer.compose inner).IsNormal := by
  rcases isNormal_iff.1 outerNormal with rfl | outerBusy
  · exact innerNormal
  · rcases isNormal_iff.1 innerNormal with rfl | innerBusy
    · rw [compose_same]
      exact outerNormal
    · rw [compose_of_busy outerBusy innerBusy]
      exact Busy.isNormal ⟨outerBusy, innerBusy⟩

theorem isNormal_addChain (normal : m.IsNormal) (ss : List Substitution) :
    (m.addChain ss).IsNormal := by
  induction ss generalizing m with
  | nil => exact normal
  | cons s ss ih => exact ih (isNormal_compose normal (isNormal_replace s))

theorem isNormal_ofDirectives (h : ofDirectives ds = .ok m) : m.IsNormal := by
  obtain ⟨ss, -, rfl⟩ := ofDirectives_eq_ok.1 h
  exact isNormal_addChain isNormal_same ss

/-- What can be built without a look inside, nested in any way. -/
inductive Built : Recoloring → Prop
  | same : Built same
  | replace (s : Substitution) : Built (replace s)
  | compose {outer inner : Recoloring} (h : Built outer) (h' : Built inner) :
    Built (outer.compose inner)
  | ofDirectives {ds : List Directive} {m : Recoloring} (h : ofDirectives ds = .ok m) : Built m
  | parse {text : String} {m : Recoloring} (h : parse text = .ok m) : Built m

/-- **Building keeps the normal form.** -/
theorem Built.isNormal (built : Built m) : m.IsNormal := by
  induction built with
  | same => exact isNormal_same
  | replace s => exact isNormal_replace s
  | compose _ _ outerNormal innerNormal => exact isNormal_compose outerNormal innerNormal
  | ofDirectives h => exact isNormal_ofDirectives h
  | parse h =>
    obtain ⟨ds, -, hds⟩ := Error.bind_eq_ok.1 h
    exact isNormal_ofDirectives hds

theorem built_rebuild (m : Recoloring) : Built m.rebuild := by
  induction m with
  | same => exact .same
  | table s => exact .replace s
  | after outer inner outerBuilt innerBuilt => exact .compose outerBuilt innerBuilt

theorem Busy.rebuild_eq (busy : m.Busy) : m.rebuild = m := by
  induction m with
  | same => rfl
  | table s => exact if_neg busy
  | after outer inner outerSame innerSame =>
    rw [rebuild, outerSame busy.1, innerSame busy.2, compose_of_busy busy.1 busy.2]

theorem rebuild_of_isNormal (normal : m.IsNormal) : m.rebuild = m := by
  rcases isNormal_iff.1 normal with rfl | busy
  · rfl
  · exact busy.rebuild_eq

theorem built_iff : Built m ↔ m.IsNormal := by
  constructor
  · exact Built.isNormal
  · intro normal
    rw [← rebuild_of_isNormal normal]
    exact built_rebuild m

/-! ## Depth -/

theorem countP_of_mapM {α β : Type} {f : α → Except Error β} {p : α → Bool} {q : β → Bool}
    (h : ∀ a b, f a = .ok b → q b = p a) {l : List α} {bs : List β} (read : l.mapM f = .ok bs) :
    bs.countP q = l.countP p := by
  induction l generalizing bs with
  | nil =>
    cases read
    rfl
  | cons a l ih =>
    rw [List.mapM_cons] at read
    obtain ⟨b, first, rest⟩ := Error.bind_eq_ok.1 read
    obtain ⟨others, later, whole⟩ := Error.bind_eq_ok.1 rest
    cases whole
    rw [List.countP_cons, List.countP_cons, ih later, h a b first]

/-- **The depth counts the directives that recolor.** -/
theorem depth_ofDirectives (h : ofDirectives ds = .ok m) :
    m.depth = ds.countP Directive.recolors := by
  obtain ⟨ss, read, rfl⟩ := ofDirectives_eq_ok.1 h
  have tables : (same.addChain ss).tables = ss.filter fun s => !s.isEmpty := tables_addChain same ss
  have filled : ∀ (d : Directive) (s : Substitution), Substitution.ofArgs d.args = .ok s →
      (!s.isEmpty) = d.args.any fun arg => !arg.isEmpty := by
    intro d s hs
    rw [Substitution.isEmpty_ofArgs hs, List.not_all_eq_any_not]
  rw [depth_eq_length_tables, tables, ← List.countP_eq_length_filter, countP_of_mapM filled read,
    List.countP_filter]
  exact List.countP_congr fun d _ => by rw [Directive.recolors, Bool.and_comm]

/-! ## Compositions -/

theorem compose_assoc (a b c : Recoloring) :
    (∀ color, ((a.compose b).compose c).apply color = (a.compose (b.compose c)).apply color) ∧
    (∀ bytes, ((a.compose b).compose c).applyBuffer bytes =
      (a.compose (b.compose c)).applyBuffer bytes) ∧
    ((a.compose b).compose c).depth = (a.compose (b.compose c)).depth ∧
    ((a.compose b).compose c).tables = (a.compose (b.compose c)).tables := by
  have colors : ∀ color, ((a.compose b).compose c).apply color =
      (a.compose (b.compose c)).apply color := fun color => by simp only [apply_compose]
  have tables : ((a.compose b).compose c).tables = (a.compose (b.compose c)).tables := by
    simp only [tables_compose, List.append_assoc]
  refine ⟨colors, fun bytes => ?_, ?_, tables⟩
  · rw [applyBuffer_eq, applyBuffer_eq, applyPixels_congr colors]
  · rw [depth_eq_length_tables, tables, depth_eq_length_tables]

/-- **What is built is in normal form**, so its depth counts what it does. -/
theorem built_isNormal :
    (∀ m, Built m ↔ m.IsNormal) ∧
    (∀ m, Built m → (m.isSame ↔ m.depth = 0)) ∧
    (∀ ds m, ofDirectives ds = .ok m → m.depth = ds.countP Directive.recolors) ∧
    (∀ a b c : Recoloring,
      (∀ color, ((a.compose b).compose c).apply color = (a.compose (b.compose c)).apply color) ∧
      (∀ bytes, ((a.compose b).compose c).applyBuffer bytes =
        (a.compose (b.compose c)).applyBuffer bytes) ∧
      ((a.compose b).compose c).depth = (a.compose (b.compose c)).depth ∧
      ((a.compose b).compose c).tables = (a.compose (b.compose c)).tables) ∧
    ∀ m : Recoloring, same.compose m = m ∧ m.compose same = m :=
  ⟨fun _ => built_iff, fun _ built => built.isNormal.isSame_iff, fun _ _ => depth_ofDirectives,
    compose_assoc, fun m => ⟨rfl, compose_same m⟩⟩

/-- A directive of empty arguments, one that does not recolor, and a table. -/
def paddedDirectives : List Directive :=
  [⟨"replace", ["", ""]⟩, ⟨"flipx", ["aabbcc=112233"]⟩, ⟨"replace", ["aabbcc=112233", ""]⟩]

theorem built_isNormal_paddedDirectives :
    ∃ m, ofDirectives paddedDirectives = .ok m ∧ m.depth = 1 ∧ m.IsNormal ∧ ¬ m.isSame := by
  obtain ⟨normal, bare, counted, -⟩ := built_isNormal
  have read : ∃ m, ofDirectives paddedDirectives = .ok m := ⟨_, rfl⟩
  obtain ⟨m, hm⟩ := read
  have built : Built m := .ofDirectives hm
  have deep : m.depth = 1 := counted paddedDirectives m hm
  refine ⟨m, hm, deep, (normal m).1 built, fun idle => ?_⟩
  rw [(bare m built).1 idle] at deep
  cases deep

end Recoloring

end Paperdoll
