import Paperdoll.Proofs.Refusal

/-!
# Replacement: calls on a character do not add up

A call on a part takes effect on the sheets as they came, and a call that fails on none at all.

**Theorem (`performAll_eq_of_lastAccepted`).** Of a run of calls, only the last accepted one counts
for each part, and the last one for the state. Two runs that agree on these lead from a character
to the same character, in every pixel. So a failing call changes nothing, and calls on different
parts can be exchanged.

What a call is about (`Aim`) is the colors of one part or the state; the two lemmas are that a call
leaves alone what it is not about (`agreeOn_of_ne`), and that an accepted call forgets what it
is about (`agreeOn_of_accepted`): from two characters with the same sheets in whatever colors, it
makes two that agree there. Whether a call is accepted depends on the text and the slots that have
a sheet, so no earlier call has a say in it (`failure?_congr`).
-/

namespace Paperdoll.Character

/-! ## What a call is about -/

/-- What can be called upon: the colors of a part, or the state. -/
inductive Aim
  | colors (part : BodyPart)
  | state
deriving DecidableEq, Repr

def Request.aim : Request → Aim
  | .applyDirectives part _ | .reset part => .colors part
  | .setState _ => .state

deriving instance DecidableEq for Request

def failure? (c : Character) : Request → Option Error
  | .applyDirectives part text => (c.recolorPart part text).2
  | .reset _ | .setState _ => none

/-- The last call of a run that is about `aim` and does not fail. -/
def lastAccepted (aim : Aim) (c : Character) : List Request → Option Request
  | [] => none
  | r :: rs =>
    (lastAccepted aim (c.perform r) rs).or
      (if r.aim = aim ∧ c.failure? r = none then some r else none)

/-- Two characters are equal in what calls about `aim` can change. -/
def AgreeOn (c d : Character) : Aim → Prop
  | .colors part => (∀ slot, slot.part = part → c.sheets.get slot = d.sheets.get slot) ∧
      c.applied.get part = d.applied.get part
  | .state => c.state = d.state

/-- Two characters are equal but for what calls can change: they have the same identity and the
same sheets, in whatever colors. -/
structure SameBare (c d : Character) : Prop where
  identity : c.identity = d.identity
  sheets : ∀ slot, (c.sheets.get slot).map Sheet.reset = (d.sheets.get slot).map Sheet.reset

variable {c d e : Character}

namespace SameBare

theorem refl (c : Character) : SameBare c c :=
  ⟨rfl, fun _ => rfl⟩

theorem symm (h : SameBare c d) : SameBare d c :=
  ⟨h.identity.symm, fun slot => (h.sheets slot).symm⟩

theorem trans (h : SameBare c d) (h' : SameBare d e) : SameBare c e :=
  ⟨h.identity.trans h'.identity, fun slot => (h.sheets slot).trans (h'.sheets slot)⟩

theorem isSome_get (h : SameBare c d) (slot : Slot) :
    (c.sheets.get slot).isSome = (d.sheets.get slot).isSome := by
  rw [← Option.isSome_map, h.sheets slot, Option.isSome_map]

theorem map_wear (h : SameBare c d) (coat : Option Sheet.Coat) (slot : Slot) :
    (c.sheets.get slot).map (·.wear coat) = (d.sheets.get slot).map (·.wear coat) := by
  have again : (·.wear coat) ∘ Sheet.reset = (·.wear coat) :=
    funext fun s => Sheet.wear_wear s none coat
  rw [← again, ← Option.map_map, h.sheets slot, Option.map_map]

end SameBare

namespace AgreeOn

variable {aim : Aim}

theorem refl (c : Character) (aim : Aim) : AgreeOn c c aim := by
  cases aim with
  | colors part => exact ⟨fun _ _ => rfl, rfl⟩
  | state => rfl

theorem symm (h : AgreeOn c d aim) : AgreeOn d c aim := by
  cases aim with
  | colors part => exact ⟨fun slot hs => (h.1 slot hs).symm, h.2.symm⟩
  | state => exact Eq.symm h

theorem trans (h : AgreeOn c d aim) (h' : AgreeOn d e aim) : AgreeOn c e aim := by
  cases aim with
  | colors part => exact ⟨fun slot hs => (h.1 slot hs).trans (h'.1 slot hs), h.2.trans h'.2⟩
  | state => exact Eq.trans h h'

end AgreeOn

/-- Characters that agree on everything are equal. -/
theorem ext_agreeOn (bare : SameBare c d) (agree : ∀ aim, AgreeOn c d aim) : c = d := by
  have sheets : c.sheets = d.sheets :=
    Slotted.ext_get fun slot => (agree (.colors slot.part)).1 slot rfl
  have applied : c.applied = d.applied :=
    Parted.ext_get fun part => (agree (.colors part)).2
  have state : c.state = d.state := agree .state
  cases c
  cases d
  simp only [mk.injEq]
  exact ⟨bare.identity, sheets, applied, state⟩

/-! ## One call -/

/-- **A call that fails changes nothing.** -/
theorem perform_of_failure {r : Request} {e : Error} (h : c.failure? r = some e) :
    c.perform r = c := by
  cases r with
  | applyDirectives part text =>
    show (c.recolorPart part text).1 = c
    change (c.recolorPart part text).2 = some e at h
    rcases recolorPart_cases c part text with ⟨_, _, -, heq, -⟩ | ⟨_, -, heq⟩ | ⟨_, -, heq, -⟩
    · rw [heq] at h; cases h
    · rw [heq]
    · rw [heq] at h; cases h
  | reset part => cases h
  | setState state => cases h

/-- No call takes a sheet off, puts one on, or changes it for good. -/
theorem sameBare_perform (c : Character) (r : Request) : SameBare (c.perform r) c := by
  have bare : ∀ (coat : Option Sheet.Coat) (slot : Slot),
      ((c.sheets.get slot).map (·.wear coat)).map Sheet.reset =
        (c.sheets.get slot).map Sheet.reset := by
    intro coat slot
    rw [Option.map_map]
    exact congrFun (congrArg Option.map (funext fun s => Sheet.wear_wear s coat none)) _
  cases r with
  | applyDirectives part text =>
    show SameBare (c.recolorPart part text).1 c
    rcases recolorPart_cases c part text with
      ⟨coat, sheets, -, heq, hget⟩ | ⟨_, -, heq⟩ | ⟨_, -, heq, -⟩ <;> rw [heq]
    · refine ⟨rfl, fun slot => ?_⟩
      rw [hget]
      split
      next => exact bare _ slot
      next => rfl
    · exact .refl c
    · exact ⟨rfl, fun _ => rfl⟩
  | reset part =>
    refine ⟨rfl, fun slot => ?_⟩
    show ((c.reset part).sheets.get slot).map Sheet.reset = _
    rw [get_reset]
    split
    next => exact bare _ slot
    next => rfl
  | setState state => exact ⟨rfl, fun _ => rfl⟩

/-- Whether a call fails depends on the call and on the slots that have a sheet. -/
theorem failure?_congr (h : SameBare c d) (r : Request) : c.failure? r = d.failure? r := by
  cases r with
  | applyDirectives part text =>
    show (c.recolorPart part text).2 = (d.recolorPart part text).2
    rw [snd_recolorPart, snd_recolorPart, refusal?_congr h.isSome_get]
  | reset part => rfl
  | setState state => rfl

theorem agreeOn_of_other {part : BodyPart} {aim : Aim} (h : Aim.colors part ≠ aim)
    {sheets : Slotted (Option Sheet)}
    (others : ∀ slot : Slot, slot.part ≠ part → sheets.get slot = c.sheets.get slot)
    (text : Option String) :
    AgreeOn { c with sheets, applied := c.applied.set part text } c aim := by
  cases aim with
  | colors other =>
    have hne : other ≠ part := fun same => h (congrArg Aim.colors same.symm)
    exact ⟨fun slot hs => others slot (hs ▸ hne), Parted.get_set_of_ne c.applied hne text⟩
  | state => rfl

/-- A call leaves alone what it is not about. -/
theorem agreeOn_of_ne {r : Request} {aim : Aim} (h : r.aim ≠ aim) :
    AgreeOn (c.perform r) c aim := by
  cases r with
  | applyDirectives part text =>
    show AgreeOn (c.recolorPart part text).1 c aim
    rcases recolorPart_cases c part text with
      ⟨coat, sheets, -, heq, hget⟩ | ⟨_, -, heq⟩ | ⟨_, -, heq, -⟩ <;> rw [heq]
    · exact agreeOn_of_other h (fun slot hs => by rw [hget, if_neg hs]) (some text)
    · exact .refl c aim
    · exact agreeOn_of_other h (fun _ _ => rfl) (some text)
  | reset part =>
    exact agreeOn_of_other h (fun slot hs => (get_reset c part slot).trans (if_neg hs)) none
  | setState state =>
    cases aim with
    | colors other => exact ⟨fun _ _ => rfl, rfl⟩
    | state => exact absurd rfl h

theorem agreeOn_of_part {part : BodyPart} {sheets sheets' : Slotted (Option Sheet)}
    (h : ∀ slot : Slot, slot.part = part → sheets.get slot = sheets'.get slot)
    (text : Option String) :
    AgreeOn { c with sheets, applied := c.applied.set part text }
      { d with sheets := sheets', applied := d.applied.set part text } (.colors part) :=
  ⟨h, (Parted.get_set_self _ part text).trans (Parted.get_set_self _ part text).symm⟩

theorem get_eq_none_of_not_hasSheet {sheets : Slot → Option Sheet} {slot : Slot}
    (h : ¬ HasSheet sheets slot.part) : sheets slot = none := by
  rw [← Option.not_isSome_iff_eq_none]
  exact fun some => h ⟨slot, slot.mem_slots_part, some⟩

/-- **An accepted call forgets what it is about.** -/
theorem agreeOn_of_accepted {r : Request} (bare : SameBare c d) (accepted : c.failure? r = none) :
    AgreeOn (c.perform r) (d.perform r) r.aim := by
  cases r with
  | applyDirectives part text =>
    show AgreeOn (c.recolorPart part text).1 (d.recolorPart part text).1 (.colors part)
    cases hm : Recoloring.parse text with
    | ok m =>
      obtain ⟨sheets, heq, hget⟩ := recolorPart_of_ok hm c part
      obtain ⟨sheets', heq', hget'⟩ := recolorPart_of_ok hm d part
      rw [heq, heq']
      refine agreeOn_of_part (fun slot hs => ?_) (some text)
      rw [hget, hget', if_pos hs, if_pos hs, bare.map_wear]
    | error e =>
      -- Nobody has read the text, so there are no sheets to agree on.
      have unloaded : ¬ HasSheet c.sheets.get part := by
        intro loaded
        change (c.recolorPart part text).2 = none at accepted
        rw [recolorPart_of_error hm, if_pos loaded] at accepted
        cases accepted
      have unloaded' : ¬ HasSheet d.sheets.get part :=
        mt (HasSheet.congr bare.isSome_get part).2 unloaded
      rw [recolorPart_of_error hm, recolorPart_of_error hm, if_neg unloaded, if_neg unloaded']
      refine agreeOn_of_part (fun slot hs => ?_) (some text)
      subst hs
      rw [get_eq_none_of_not_hasSheet unloaded, get_eq_none_of_not_hasSheet unloaded']
  | reset part =>
    refine agreeOn_of_part (fun slot hs => ?_) none
    show (c.reset part).sheets.get slot = (d.reset part).sheets.get slot
    rw [get_reset, get_reset, if_pos hs, if_pos hs, bare.map_wear]
  | setState state => rfl

/-! ## A run of calls -/

theorem sameBare_performAll (c : Character) (rs : List Request) : SameBare (c.performAll rs) c := by
  induction rs generalizing c with
  | nil => exact .refl c
  | cons r rs ih => exact (ih (c.perform r)).trans (sameBare_perform c r)

/-- The last accepted call is about what it should be, and would have been accepted at the start. -/
theorem of_lastAccepted_eq_some {aim : Aim} {rs : List Request} {r : Request}
    (h : c.lastAccepted aim rs = some r) : r.aim = aim ∧ c.failure? r = none := by
  induction rs generalizing c with
  | nil => cases h
  | cons first rest ih =>
    unfold lastAccepted at h
    rcases Option.or_eq_some_iff.1 h with later | ⟨-, now⟩
    · obtain ⟨about, accepted⟩ := ih later
      exact ⟨about, by rw [← failure?_congr (sameBare_perform c first)]; exact accepted⟩
    · obtain ⟨both, heq⟩ := Option.ite_none_right_eq_some.1 now
      cases heq
      exact both

/-- **A run of calls** does what its last accepted call does. -/
theorem agreeOn_performAll (aim : Aim) (c : Character) (rs : List Request) :
    AgreeOn (c.performAll rs) ((c.lastAccepted aim rs).elim c c.perform) aim := by
  induction rs generalizing c with
  | nil => exact .refl c aim
  | cons r rs ih =>
    have rest := ih (c.perform r)
    show AgreeOn ((c.perform r).performAll rs) _ aim
    unfold lastAccepted
    cases later : lastAccepted aim (c.perform r) rs with
    | some s =>
      -- What the first call did is forgotten.
      obtain ⟨rfl, accepted⟩ := of_lastAccepted_eq_some later
      rw [later] at rest
      exact rest.trans (agreeOn_of_accepted (sameBare_perform c r) accepted)
    | none =>
      rw [later] at rest
      rw [Option.none_or]
      by_cases about : r.aim = aim
      · cases outcome : c.failure? r with
        | none => rw [if_pos ⟨about, rfl⟩]; exact rest
        | some e =>
          rw [if_neg (by simp)]
          rw [perform_of_failure outcome] at rest ⊢
          exact rest
      · rw [if_neg fun both => about both.1]
        exact rest.trans (agreeOn_of_ne about)

/-- Calls about different things are in either order the last ones. -/
theorem lastAccepted_swap {r s : Request} (h : r.aim ≠ s.aim) (aim : Aim) (c : Character) :
    c.lastAccepted aim [r, s] = c.lastAccepted aim [s, r] := by
  simp only [lastAccepted, Option.none_or, failure?_congr (sameBare_perform c _)]
  by_cases hr : r.aim = aim
  · have hs : ¬ (s.aim = aim ∧ c.failure? s = none) := fun both => h (hr.trans both.1.symm)
    rw [if_neg hs, Option.none_or, Option.or_none]
  · have hr : ¬ (r.aim = aim ∧ c.failure? r = none) := fun both => hr both.1
    rw [if_neg hr, Option.none_or, Option.or_none]

/-- **Calls replace each other.** Only the last accepted call counts for each part and for the
state; a failing call changes nothing; calls about different things can be exchanged. -/
theorem performAll_eq_of_lastAccepted (c : Character) :
    (∀ u v, (∀ aim, c.lastAccepted aim u = c.lastAccepted aim v) →
      c.performAll u = c.performAll v) ∧
    (∀ r e, c.failure? r = some e → c.perform r = c) ∧
    ∀ r s : Request, r.aim ≠ s.aim →
      (c.perform r).perform s = (c.perform s).perform r ∧
        (c.perform r).failure? s = c.failure? s ∧ (c.perform s).failure? r = c.failure? r := by
  have replaced : ∀ u v, (∀ aim, c.lastAccepted aim u = c.lastAccepted aim v) →
      c.performAll u = c.performAll v := by
    intro u v same
    have bare : SameBare (c.performAll u) (c.performAll v) :=
      (sameBare_performAll c u).trans (sameBare_performAll c v).symm
    refine ext_agreeOn bare fun aim => ?_
    have left := agreeOn_performAll aim c u
    rw [same aim] at left
    exact left.trans (agreeOn_performAll aim c v).symm
  refine ⟨replaced, fun r e => perform_of_failure, fun r s h => ⟨?_, ?_, ?_⟩⟩
  · exact replaced [r, s] [s, r] fun aim => lastAccepted_swap h aim c
  · exact failure?_congr (sameBare_perform c r) s
  · exact failure?_congr (sameBare_perform c s) r

/-- A run with changes of mind, a refused text, and a text that nobody reads. -/
def detour : List Request :=
  [.applyDirectives .body "?replace;aabbcc=112233", .reset .body, .setState "walk.1",
    .applyDirectives .hair commandless, .applyDirectives .body "?replace;aabbcc=ff0000",
    .setState "climb.2", .applyDirectives .body commandless]

/-- What counts of it, in another order. -/
def shortcut : List Request :=
  [.setState "climb.2", .applyDirectives .body "?replace;aabbcc=ff0000",
    .applyDirectives .hair commandless]

theorem performAll_eq_of_lastAccepted_detour :
    ∃ c, assemble {} fourSpecked = .ok c ∧ Reachable c ∧
      (∀ aim, c.lastAccepted aim detour = c.lastAccepted aim shortcut) ∧
      c.performAll detour = c.performAll shortcut ∧
      c.failure? (.applyDirectives .body commandless) =
        some (.malformedDirective 0 ";ff0000") ∧
      c.perform (.applyDirectives .body commandless) = c := by
  have run : (assemble {} fourSpecked).toOption.map (fun c =>
      ([Aim.colors .body, .colors .hair, .colors .facialHair, .colors .mask, .state].all fun aim =>
        c.lastAccepted aim detour == c.lastAccepted aim shortcut,
      c.failure? (.applyDirectives .body commandless))) =
      some (true, some (.malformedDirective 0 ";ff0000")) := by
    decide +kernel
  obtain ⟨c, hc, heq⟩ := Option.map_eq_some_iff.1 run
  obtain ⟨alike, refused⟩ := Prod.mk.inj heq
  have ok := Error.eq_ok_of_toOption hc
  have same : ∀ aim, c.lastAccepted aim detour = c.lastAccepted aim shortcut := by
    simp only [List.all_cons, List.all_nil, Bool.and_eq_true, beq_iff_eq] at alike
    obtain ⟨body, hair, facialHair, mask, state, -⟩ := alike
    rintro (part | _)
    · cases part <;> assumption
    · exact state
  obtain ⟨replaced, unchanged, -⟩ := performAll_eq_of_lastAccepted c
  exact ⟨c, ok, .assemble reachable_of_mem_fourSpecked ok, same, replaced detour shortcut same,
    refused, unchanged _ _ refused⟩

end Paperdoll.Character
