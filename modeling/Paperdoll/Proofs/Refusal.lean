import Paperdoll.Proofs.Outfit

/-!
# Refusals: which directives of a character are read

The directives of a part are read by the sheets of the part, and by nobody else.

**Theorem (`refused_iff_hasSheet`).** A text that cannot be read is refused by a part that has a
sheet, and then nothing changes; a part without a sheet takes it unread. So assembling fails with
the first text that cannot be read among those of the parts that are given sheets, and in every
character that can come about the directives of a part with a sheet can be read.

The restriction to parts with a sheet cannot be dropped: directives for hair that cannot be read
get into a character without hair, and stay in force (`unreadable_taken_without_sheet`).

Sheets are never taken off or put on, so what a part refuses is settled by the sheets handed over.
`refusal?` says it once, and dressing is a search for the first refusal (`dress_eq_error`).
-/

namespace Paperdoll.Character

open Sheet (Coat coatColors)

variable {c : Character} {part : BodyPart} {text : String}

/-! ## Parts with a sheet -/

def HasSheet (sheets : Slot → Option Sheet) (part : BodyPart) : Prop :=
  ∃ slot ∈ part.slots, (sheets slot).isSome

instance (sheets : Slot → Option Sheet) (part : BodyPart) : Decidable (HasSheet sheets part) :=
  inferInstanceAs (Decidable (∃ slot ∈ part.slots, (sheets slot).isSome))

theorem HasSheet.congr {sheets sheets' : Slot → Option Sheet}
    (h : ∀ slot, (sheets slot).isSome = (sheets' slot).isSome) (part : BodyPart) :
    HasSheet sheets part ↔ HasSheet sheets' part := by
  unfold HasSheet
  simp only [h]

def takeUnread (c : Character) (part : BodyPart) (text : String) : Character :=
  { c with applied := c.applied.set part (some text) }

/-- **A text that can be read** goes to all sheets of the part. -/
theorem recolorPart_of_ok {m : Recoloring} (h : Recoloring.parse text = .ok m) (c : Character)
    (part : BodyPart) :
    ∃ sheets, c.recolorPart part text =
        ({ c with sheets, applied := c.applied.set part (some text) }, none) ∧
      ∀ slot, sheets.get slot =
        if slot.part = part then (c.sheets.get slot).map (·.wear (some ⟨text, m, fun _ => h⟩))
        else c.sheets.get slot := by
  have read := Coat.ofText_of_ok h
  rcases recolorPart_cases c part text with ⟨coat, sheets, hof, heq, hget⟩ | ⟨e, hof, -⟩ | ⟨e, hof, -⟩
  · cases read.symm.trans hof
    exact ⟨sheets, heq, hget⟩
  · cases read.symm.trans hof
  · cases read.symm.trans hof

/-- **A text that cannot be read**: the part refuses it if it has a sheet. -/
theorem recolorPart_of_error {e : Error} (h : Recoloring.parse text = .error e) (c : Character)
    (part : BodyPart) :
    c.recolorPart part text =
      if HasSheet c.sheets.get part then (c, some e) else (c.takeUnread part text, none) := by
  have stopped := recolorSlots_of_error (Coat.ofText_of_error h) c.sheets part.slots
  unfold recolorPart
  by_cases loaded : HasSheet c.sheets.get part
  · rw [if_pos (List.any_eq_true.2 loaded)] at stopped
    rw [stopped, if_pos loaded]
  · rw [if_neg (mt List.any_eq_true.1 loaded)] at stopped
    rw [stopped, if_neg loaded]
    rfl

/-- Why a part refuses a text, if it does. -/
def refusal? (sheets : Slot → Option Sheet) (part : BodyPart) (text : String) : Option Error :=
  match Recoloring.parse text with
  | .ok _ => none
  | .error e => if HasSheet sheets part then some e else none

theorem refusal?_congr {sheets sheets' : Slot → Option Sheet}
    (h : ∀ slot, (sheets slot).isSome = (sheets' slot).isSome) (part : BodyPart) (text : String) :
    refusal? sheets part text = refusal? sheets' part text := by
  unfold refusal?
  simp only [HasSheet.congr h]

/-- Whether a recoloring fails is seen from the text and the slots with a sheet. -/
theorem snd_recolorPart (c : Character) (part : BodyPart) (text : String) :
    (c.recolorPart part text).2 = refusal? c.sheets.get part text := by
  unfold refusal?
  cases h : Recoloring.parse text with
  | ok m =>
    obtain ⟨sheets, heq, -⟩ := recolorPart_of_ok h c part
    rw [heq]
  | error e =>
    rw [recolorPart_of_error h]
    by_cases loaded : HasSheet c.sheets.get part
    · simp only [if_pos loaded]
    · simp only [if_neg loaded]

theorem isSome_get_recolorPart (c : Character) (part : BodyPart) (text : String) (slot : Slot) :
    ((c.recolorPart part text).1.sheets.get slot).isSome = (c.sheets.get slot).isSome :=
  isSome_get_perform c (.applyDirectives part text) slot

/-! ## Assembling -/

theorem dress_eq_error {parts : List BodyPart} {e : Error} :
    c.dress parts = .error e ↔
      parts.findSome? (fun part => refusal? c.sheets.get part (c.identity.directives part)) =
        some e := by
  induction parts generalizing c with
  | nil => simp [dress]
  | cons part rest ih =>
    have outcome := snd_recolorPart c part (c.identity.directives part)
    have loaded := isSome_get_recolorPart c part (c.identity.directives part)
    have stays := identity_recolorPart c part (c.identity.directives part)
    rw [List.findSome?_cons, ← outcome]
    unfold dress applyDirectives
    cases h : c.recolorPart part (c.identity.directives part) with
    | mk next failure =>
      rw [h] at loaded stays
      cases failure with
      | some e' =>
        show Except.error e' = Except.error e ↔ some e' = some e
        rw [Except.error.injEq, Option.some.injEq]
      | none =>
        show next.dress rest = .error e ↔ _
        rw [ih, stays]
        simp only [refusal?_congr loaded]

theorem assemble_of_complete {i : Identity} {given : List (Slot × Sheet)}
    (complete : ∀ slot : Slot, slot.isRequired → (handedOver given slot).isSome) :
    ∃ bare : Character, bare.identity = i ∧ (∀ slot, bare.sheets.get slot = handedOver given slot) ∧
      assemble i given = bare.dress BodyPart.all := by
  have worn : ∀ slot, (given.foldl (fun worn s => worn.set s.1 (some s.2))
      (Slotted.fill none)).get slot = handedOver given slot := by
    intro slot
    rw [get_foldl_set, Slotted.get_fill, Option.or_none]
  refine ⟨{ identity := i, sheets := _, applied := .fill none, state := idleState }, rfl, worn, ?_⟩
  unfold assemble
  have nothing : firstMissing?
      (given.foldl (fun worn s => worn.set s.1 (some s.2)) (Slotted.fill none)) = none := by
    unfold firstMissing?
    rw [List.find?_eq_none]
    intro slot _
    rw [worn]
    simpa [Option.isSome_iff_ne_none] using complete slot
  simp only [nothing]

theorem isSome_get_of_assemble {i : Identity} {given : List (Slot × Sheet)}
    (h : assemble i given = .ok c) (slot : Slot) :
    (c.sheets.get slot).isSome = (handedOver given slot).isSome := by
  obtain ⟨coat, worn, -⟩ := dressed_assemble h slot
  rw [worn, Option.isSome_map]

/-! ## Every run -/

/-- **The directives of a part with a sheet can be read.** -/
theorem parse_directives_of_reachable (h : Reachable c) (loaded : HasSheet c.sheets.get part) :
    ∃ m, Recoloring.parse (c.directives part) = .ok m := by
  obtain ⟨slot, hslot, hsome⟩ := loaded
  obtain rfl := BodyPart.mem_slots.1 hslot
  obtain ⟨sheet, hsheet⟩ := Option.isSome_iff_exists.1 hsome
  obtain ⟨-, coat, -, -, parsed⟩ := wear_of_reachable h hsheet
  exact ⟨coatColors coat, parsed⟩

/-- **When a text that cannot be read is refused**: in assembling, by a part, and so in every
character that can come about. -/
theorem refused_iff_hasSheet (i : Identity) (given : List (Slot × Sheet)) (c : Character)
    (part : BodyPart) :
    ((∀ slot : Slot, slot.isRequired → (handedOver given slot).isSome) → ∀ e,
      assemble i given = .error e ↔
        BodyPart.all.findSome?
          (fun part => refusal? (handedOver given) part (i.directives part)) = some e) ∧
    (∀ text e, Recoloring.parse text = .error e →
      c.recolorPart part text =
        if HasSheet c.sheets.get part then (c, some e) else (c.takeUnread part text, none)) ∧
    (Reachable c → HasSheet c.sheets.get part →
      ∃ m, Recoloring.parse (c.directives part) = .ok m) := by
  refine ⟨fun complete e => ?_, fun text e h => recolorPart_of_error h c part,
    parse_directives_of_reachable⟩
  obtain ⟨bare, rfl, worn, heq⟩ := assemble_of_complete (i := i) complete
  rw [heq, dress_eq_error]
  simp only [refusal?_congr fun slot => congrArg Option.isSome (worn slot)]

def fourSpecked : List (Slot × Sheet) :=
  (Slot.drawOrder.filter Slot.isRequired).map fun slot => (slot, specks)

theorem isSome_handedOver_fourSpecked (slot : Slot) (required : slot.isRequired) :
    (handedOver fourSpecked slot).isSome := by
  cases slot <;> first | rfl | cases required

def commandless : String := "?;ff0000"

theorem parse_commandless :
    Recoloring.parse commandless = .error (.malformedDirective 0 ";ff0000") := by
  rfl

/-- Without hair nobody reads the directives for it. -/
theorem assemble_commandless :
    ∃ c, assemble { hair := { directives := commandless } } fourSpecked = .ok c ∧
      c.directives .hair = commandless ∧ (c.recolorPart .hair commandless).2 = none := by
  have run : ((assemble { hair := { directives := commandless } } fourSpecked).toOption.map
      fun c => (c.directives .hair, (c.recolorPart .hair commandless).2)) =
      some (commandless, none) := by
    decide +kernel
  obtain ⟨c, hc, heq⟩ := Option.map_eq_some_iff.1 run
  obtain ⟨inForce, taken⟩ := Prod.mk.inj heq
  exact ⟨c, Error.eq_ok_of_toOption hc, inForce, taken⟩

theorem reachable_of_mem_fourSpecked : ∀ s ∈ fourSpecked, s.2.Reachable := by
  intro s mem
  obtain ⟨_, -, rfl⟩ := List.mem_map.1 mem
  exact ⟨Sheet.fourSpecks, {}, specks, [], rfl, rfl⟩

/-- Directives that cannot be read get into a character without an error, and stay in force. -/
theorem unreadable_taken_without_sheet :
    (∀ s ∈ fourSpecked, s.2.Reachable) ∧
    (∀ slot : Slot, slot.isRequired → (handedOver fourSpecked slot).isSome) ∧
    (∃ e, Recoloring.parse commandless = .error e) ∧
    ∃ c, assemble { hair := { directives := commandless } } fourSpecked = .ok c ∧ Reachable c ∧
      c.directives .hair = commandless ∧ (c.recolorPart .hair commandless).2 = none := by
  obtain ⟨c, hc, inForce, taken⟩ := assemble_commandless
  exact ⟨reachable_of_mem_fourSpecked, isSome_handedOver_fourSpecked, ⟨_, parse_commandless⟩,
    c, hc, .assemble reachable_of_mem_fourSpecked hc, inForce, taken⟩

theorem refused_iff_hasSheet_commandless :
    ∃ c, assemble { hair := { directives := commandless } } fourSpecked = .ok c ∧
      c.recolorPart .body commandless = (c, some (.malformedDirective 0 ";ff0000")) ∧
      c.recolorPart .mask commandless = (c.takeUnread .mask commandless, none) ∧
      assemble { bodyDirectives := commandless } fourSpecked =
        .error (.malformedDirective 0 ";ff0000") ∧
      ∃ m, Recoloring.parse (c.directives .body) = .ok m := by
  obtain ⟨c, hc, -⟩ := assemble_commandless
  obtain ⟨assembled, refused, kept⟩ :=
    refused_iff_hasSheet { bodyDirectives := commandless } fourSpecked c .body
  obtain ⟨-, taken, -⟩ :=
    refused_iff_hasSheet { bodyDirectives := commandless } fourSpecked c .mask
  have reachable : Reachable c := .assemble reachable_of_mem_fourSpecked hc
  have given : ∀ part, HasSheet c.sheets.get part ↔ HasSheet (handedOver fourSpecked) part :=
    HasSheet.congr (isSome_get_of_assemble hc)
  have loaded : HasSheet c.sheets.get .body := (given .body).2 (by decide)
  have unloaded : ¬ HasSheet c.sheets.get .mask := mt (given .mask).1 (by decide)
  refine ⟨c, hc, ?_, ?_, ?_, kept reachable loaded⟩
  · rw [refused commandless _ parse_commandless, if_pos loaded]
  · rw [taken commandless _ parse_commandless, if_neg unloaded]
  · rw [assembled isSome_handedOver_fourSpecked]
    rfl

end Paperdoll.Character
