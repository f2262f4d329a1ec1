import Paperdoll.Character
import Paperdoll.Proofs.Coat

/-!
# Outfits: the sheets of a character keep to the directives of their parts

A character keeps one directive text for each part; the sheets of the part each keep the text they
wear. Nothing but the calls ties the two together.

**Theorem (`performAll_keeps_outfit`).** Assemble a character from any sheets, recolored before or
not, and run any calls on it. Each sheet then wears the directives of its part: it has their text,
the text can be read, and the pixels are those of the picture recolored accordingly. The picture,
its palette and its frames are those of the sheet that was handed over. The directives of a part
with a sheet are the last ones that could be read.

A call goes over the sheets of a part one by one and may stop on the way, so the invariant is one
of a single slot (`Dressed`): the sheet there is the one handed over, in a coat which the
directives of its part denote. `recolorPart_cases` says once what a recoloring can do. It shows
that nothing is left half done: whether a text is refused depends on the text alone, so the first
sheet refuses it or none does.
-/

namespace Paperdoll.Character

open Sheet (Coat coatText coatColors)

/-! ## Calls -/

/-- A call that changes a character. -/
inductive Request
  | applyDirectives (part : BodyPart) (text : String)
  | reset (part : BodyPart)
  | setState (state : String)

/-- The character that a call leaves behind, also by failing. -/
def perform (c : Character) : Request → Character
  | .applyDirectives part text => (c.recolorPart part text).1
  | .reset part => c.reset part
  | .setState state => c.setState state

def performAll (c : Character) (rs : List Request) : Character :=
  rs.foldl perform c

/-- The directives of a part after a call, if they were `before`. Those that cannot be read count
for nothing. -/
def Request.directivesAfter (part : BodyPart) (before : String) : Request → String
  | .applyDirectives p text => if p = part ∧ (Recoloring.parse text).isOk then text else before
  | .reset p => if p = part then "" else before
  | .setState _ => before

/-! ## What a call does to the sheets -/

/-- A text that can be read goes to every sheet in the slots. -/
theorem recolorSlots_of_ok {text : String} {coat : Coat} (h : Coat.ofText text = .ok coat)
    (sheets : Slotted (Option Sheet)) (slots : List Slot) :
    (recolorSlots text sheets slots).2 = none ∧
      ∀ slot, (recolorSlots text sheets slots).1.get slot =
        if slot ∈ slots then (sheets.get slot).map (·.wear (some coat)) else sheets.get slot := by
  induction slots generalizing sheets with
  | nil => exact ⟨rfl, fun slot => rfl⟩
  | cons first rest ih =>
    unfold recolorSlots
    cases hf : sheets.get first with
    | none =>
      refine ⟨(ih sheets).1, fun slot => ?_⟩
      rw [(ih sheets).2 slot]
      by_cases hs : slot = first
      · subst hs; simp [hf]
      · simp [hs]
    | some sheet =>
      have applied : sheet.applyDirectives text = .ok (sheet.wear (some coat)) := by
        rw [Sheet.applyDirectives_eq, h]; rfl
      simp only [applied]
      refine ⟨(ih _).1, fun slot => ?_⟩
      rw [(ih _).2 slot, Slotted.get_set]
      by_cases hs : slot = first
      · subst hs; simp [hf]
      · simp [hs]

/-- A text that cannot be read stops at the first sheet and changes none. -/
theorem recolorSlots_of_error {text : String} {e : Error} (h : Coat.ofText text = .error e)
    (sheets : Slotted (Option Sheet)) (slots : List Slot) :
    recolorSlots text sheets slots =
      (sheets, if slots.any fun slot => (sheets.get slot).isSome then some e else none) := by
  induction slots with
  | nil => rfl
  | cons first rest ih =>
    unfold recolorSlots
    cases hf : sheets.get first with
    | none => simp only [ih, List.any_cons, hf, Option.isSome_none, Bool.false_or]
    | some sheet =>
      have refused : sheet.applyDirectives text = .error e := by
        rw [Sheet.applyDirectives_eq, h]; rfl
      simp [refused, hf]

/-- **What a recoloring of a part can do.** It puts all sheets of the part into the coat of the
text; or it fails and changes nothing; or it meets no sheet that could have refused the text. -/
theorem recolorPart_cases (c : Character) (part : BodyPart) (text : String) :
    (∃ coat sheets, Coat.ofText text = .ok coat ∧
      c.recolorPart part text =
        ({ c with sheets, applied := c.applied.set part (some text) }, none) ∧
      ∀ slot, sheets.get slot =
        if slot.part = part then (c.sheets.get slot).map (·.wear (some coat))
        else c.sheets.get slot) ∨
    (∃ e, Coat.ofText text = .error e ∧ c.recolorPart part text = (c, some e)) ∨
    ∃ e, Coat.ofText text = .error e ∧
      c.recolorPart part text = ({ c with applied := c.applied.set part (some text) }, none) ∧
      ∀ slot, slot.part = part → c.sheets.get slot = none := by
  cases h : Coat.ofText text with
  | ok coat =>
    obtain ⟨passed, worn⟩ := recolorSlots_of_ok h c.sheets part.slots
    refine .inl ⟨coat, (recolorSlots text c.sheets part.slots).1, rfl, ?_, fun slot => ?_⟩
    · unfold recolorPart
      split
      next heq => rw [heq] at passed; cases passed
      next heq => rw [heq]
    · rw [worn]
      simp only [BodyPart.mem_slots]
  | error e =>
    have stopped := recolorSlots_of_error h c.sheets part.slots
    by_cases loaded : part.slots.any fun slot => (c.sheets.get slot).isSome
    · rw [if_pos loaded] at stopped
      exact .inr (.inl ⟨e, rfl, by unfold recolorPart; rw [stopped]⟩)
    · rw [if_neg loaded] at stopped
      refine .inr (.inr ⟨e, rfl, by unfold recolorPart; rw [stopped], fun slot hs => ?_⟩)
      rw [← Option.not_isSome_iff_eq_none]
      intro some
      exact loaded (List.any_eq_true.2 ⟨slot, BodyPart.mem_slots.2 hs, some⟩)

theorem get_foldl_reset (slots : List Slot) (sheets : Slotted (Option Sheet)) (slot : Slot) :
    (slots.foldl (fun sheets slot => sheets.set slot ((sheets.get slot).map Sheet.reset))
      sheets).get slot =
      if slot ∈ slots then (sheets.get slot).map (·.wear none) else sheets.get slot := by
  induction slots generalizing sheets with
  | nil => rfl
  | cons first rest ih =>
    rw [List.foldl_cons, ih, Slotted.get_set]
    by_cases hs : slot = first
    · subst hs; cases sheets.get slot <;> simp [Sheet.wear, Sheet.reset]
    · simp [hs]

/-- A reset takes the sheets of the part out of their coats. -/
theorem get_reset (c : Character) (part : BodyPart) (slot : Slot) :
    (c.reset part).sheets.get slot =
      if slot.part = part then (c.sheets.get slot).map (·.wear none) else c.sheets.get slot := by
  rw [reset, get_foldl_reset]
  simp only [BodyPart.mem_slots]

/-! ## The invariant of a slot -/

/-- The sheet in `slot` is the one handed over, in a coat that the directives of its part denote;
they are `text`. -/
def Dressed (handed : Slot → Option Sheet) (slot : Slot) (text : String) (c : Character) : Prop :=
  ∃ coat, c.sheets.get slot = (handed slot).map (·.wear coat) ∧
    ((handed slot).isSome → c.directives slot.part = text ∧ coatText coat = text ∧
      Recoloring.parse text = .ok (coatColors coat))

variable {handed : Slot → Option Sheet} {slot : Slot} {text : String} {c : Character}

theorem parse_empty : Recoloring.parse "" = .ok .same := rfl

theorem Dressed.wear {sheet : Sheet} (h : Dressed handed slot text c)
    (loaded : c.sheets.get slot = some sheet) :
    ∃ before coat, handed slot = some before ∧ sheet = before.wear coat ∧
      c.directives slot.part = text ∧ coatText coat = text ∧
      Recoloring.parse text = .ok (coatColors coat) := by
  obtain ⟨coat, worn, read⟩ := h
  rw [loaded, eq_comm, Option.map_eq_some_iff] at worn
  obtain ⟨before, hbefore, rfl⟩ := worn
  exact ⟨before, coat, hbefore, rfl, read (by rw [hbefore]; rfl)⟩

theorem Dressed.of_eq {c' : Character} (h : Dressed handed slot text c)
    (sheet : c'.sheets.get slot = c.sheets.get slot)
    (texts : c'.directives slot.part = c.directives slot.part) :
    Dressed handed slot text c' := by
  unfold Dressed at h ⊢
  rw [sheet, texts]
  exact h

theorem Dressed.change {c' : Character} (h : Dressed handed slot text c) (coat : Option Coat)
    (sheet : c'.sheets.get slot = (c.sheets.get slot).map (·.wear coat))
    (texts : c'.directives slot.part = coatText coat)
    (read : Recoloring.parse (coatText coat) = .ok (coatColors coat)) :
    Dressed handed slot (coatText coat) c' := by
  obtain ⟨before, worn, -⟩ := h
  refine ⟨coat, ?_, fun _ => ⟨texts, rfl, read⟩⟩
  rw [sheet, worn, Option.map_map]
  congr 1
  funext s
  exact Sheet.wear_wear s before coat

theorem not_counted_of_error {e : Error} (h : Coat.ofText text = .error e) (part other : BodyPart) :
    ¬ (part = other ∧ (Recoloring.parse text).isOk) := by
  rintro ⟨-, read⟩
  rw [Coat.parse_of_ofText_error h] at read
  cases read

/-- **Applying directives keeps the invariant**, whether they are accepted or not. -/
theorem dressed_recolorPart (h : Dressed handed slot text c) (part : BodyPart) (new : String) :
    Dressed handed slot
      (if part = slot.part ∧ (Recoloring.parse new).isOk then new else text)
      (c.recolorPart part new).1 := by
  rcases recolorPart_cases c part new with
    ⟨coat, sheets, hof, heq, hget⟩ | ⟨e, hof, heq⟩ | ⟨e, hof, heq, hnone⟩
  · obtain ⟨rfl, hparse⟩ := Coat.parse_of_ofText hof
    rw [heq]
    by_cases hp : part = slot.part
    · rw [if_pos ⟨hp, by rw [hparse]; rfl⟩]
      refine h.change (some coat) ?_ ?_ hparse
      · rw [hget, if_pos hp.symm]
      · rw [directives_of_set rfl, if_pos hp.symm]; rfl
    · rw [if_neg fun both => hp both.1]
      refine h.of_eq ?_ ?_
      · rw [hget, if_neg (Ne.symm hp)]
      · rw [directives_of_set rfl, if_neg (Ne.symm hp)]
  · rw [heq, if_neg (not_counted_of_error hof part slot.part)]
    exact h
  · rw [heq, if_neg (not_counted_of_error hof part slot.part)]
    by_cases hp : slot.part = part
    · -- The part has no sheet, so none was handed over for this slot.
      obtain ⟨coat, worn, -⟩ := h
      refine ⟨coat, worn, fun some => ?_⟩
      rw [hnone slot hp, eq_comm, Option.map_eq_none_iff] at worn
      rw [worn] at some
      cases some
    · refine h.of_eq rfl ?_
      rw [directives_of_set rfl, if_neg hp]

theorem dressed_reset (h : Dressed handed slot text c) (part : BodyPart) :
    Dressed handed slot (if part = slot.part then "" else text) (c.reset part) := by
  have texts : (c.reset part).applied = c.applied.set part none := rfl
  by_cases hp : part = slot.part
  · rw [if_pos hp]
    refine h.change none ?_ ?_ parse_empty
    · rw [get_reset, if_pos hp.symm]
    · rw [directives_of_set texts, if_pos hp.symm]; rfl
  · rw [if_neg hp]
    refine h.of_eq ?_ ?_
    · rw [get_reset, if_neg (Ne.symm hp)]
    · rw [directives_of_set texts, if_neg (Ne.symm hp)]

/-- **One call.** -/
theorem dressed_perform (h : Dressed handed slot text c) (r : Request) :
    Dressed handed slot (r.directivesAfter slot.part text) (c.perform r) := by
  cases r with
  | applyDirectives part new => exact dressed_recolorPart h part new
  | reset part => exact dressed_reset h part
  | setState state => exact h

/-- **A run of calls.** -/
theorem dressed_performAll (h : Dressed handed slot text c) (rs : List Request) :
    Dressed handed slot (rs.foldl (Request.directivesAfter slot.part) text) (c.performAll rs) := by
  induction rs generalizing c text with
  | nil => exact h
  | cons r rs ih => exact ih (dressed_perform h r)

/-! ## Assembling -/

/-- The sheet that is handed over for a slot, the last one of several. -/
def handedOver (given : List (Slot × Sheet)) (slot : Slot) : Option Sheet :=
  given.reverse.lookup slot

theorem mem_of_handedOver {given : List (Slot × Sheet)} {sheet : Sheet}
    (h : handedOver given slot = some sheet) : (slot, sheet) ∈ given := by
  obtain ⟨front, back, split, -⟩ := List.lookup_eq_some_iff.1 h
  rw [← List.mem_reverse, split]
  exact List.mem_append_right front List.mem_cons_self

theorem handedOver_cons (first : Slot × Sheet) (rest : List (Slot × Sheet)) (slot : Slot) :
    handedOver (first :: rest) slot =
      (handedOver rest slot).or (if slot = first.1 then some first.2 else none) := by
  obtain ⟨other, sheet⟩ := first
  unfold handedOver
  rw [List.reverse_cons, List.lookup_append]
  congr 1
  by_cases hs : slot = other
  · subst hs
    rw [List.lookup_cons_self, if_pos rfl]
  · have hne : (slot == other) = false := beq_false_of_ne hs
    rw [List.lookup_cons, hne, if_neg hs]
    rfl

theorem get_foldl_set (given : List (Slot × Sheet)) (sheets : Slotted (Option Sheet)) (slot : Slot) :
    (given.foldl (fun sheets s => sheets.set s.1 (some s.2)) sheets).get slot =
      (handedOver given slot).or (sheets.get slot) := by
  induction given generalizing sheets with
  | nil => rfl
  | cons first rest ih =>
    rw [List.foldl_cons, ih, Slotted.get_set, handedOver_cons, Option.or_assoc]
    congr 1
    split <;> rfl

/-- **What assembling can do.** The sheets handed over are put on, the required ones are there,
and the directives of the identity are applied to every part. -/
theorem assemble_eq_ok {i : Identity} {given : List (Slot × Sheet)}
    (h : assemble i given = .ok c) :
    ∃ bare : Character, bare.identity = i ∧ (∀ slot, bare.sheets.get slot = handedOver given slot) ∧
      firstMissing? bare.sheets = none ∧ bare.dress BodyPart.all = .ok c := by
  unfold assemble at h
  simp only at h
  split at h
  next slot missing => cases h
  next complete =>
    refine ⟨_, rfl, fun slot => ?_, complete, h⟩
    rw [get_foldl_set, Slotted.get_fill, Option.or_none]

theorem applyDirectives_eq_ok {c c' : Character} {part : BodyPart} {text : String}
    (h : c.applyDirectives part text = .ok c') : c.recolorPart part text = (c', none) := by
  unfold applyDirectives at h
  split at h
  next heq => cases h; exact heq
  next heq => cases h

theorem identity_recolorPart (c : Character) (part : BodyPart) (text : String) :
    (c.recolorPart part text).1.identity = c.identity := by
  rcases recolorPart_cases c part text with ⟨_, _, -, heq, -⟩ | ⟨_, -, heq⟩ | ⟨_, -, heq, -⟩ <;>
    rw [heq]

theorem get_recolorPart_of_ne {part : BodyPart} (h : slot.part ≠ part) (c : Character)
    (text : String) : (c.recolorPart part text).1.sheets.get slot = c.sheets.get slot := by
  rcases recolorPart_cases c part text with
    ⟨_, _, -, heq, hget⟩ | ⟨_, -, heq⟩ | ⟨_, -, heq, -⟩ <;> rw [heq]
  rw [hget, if_neg h]

/-- The first directives of a part dress its sheets, in whatever colors they were handed over. -/
theorem dressed_of_handed (text : String) (worn : c.sheets.get slot = handed slot)
    (accepted : (c.recolorPart slot.part text).2 = none) :
    Dressed handed slot text (c.recolorPart slot.part text).1 := by
  rcases recolorPart_cases c slot.part text with
    ⟨coat, sheets, hof, heq, hget⟩ | ⟨e, hof, heq⟩ | ⟨e, hof, heq, hnone⟩
  · obtain ⟨rfl, hparse⟩ := Coat.parse_of_ofText hof
    rw [heq]
    refine ⟨some coat, ?_, fun _ => ⟨?_, rfl, hparse⟩⟩
    · rw [hget, if_pos rfl, worn]
    · rw [directives_of_set rfl, if_pos rfl]; rfl
  · rw [heq] at accepted
    cases accepted
  · have nothing : handed slot = none := worn.symm.trans (hnone slot rfl)
    rw [heq]
    refine ⟨none, ?_, fun some => ?_⟩
    · rw [hnone slot rfl, nothing]; rfl
    · rw [nothing] at some
      cases some

/-- Dressing goes over the parts; the slots of those still to come are as they were handed over. -/
theorem dressed_dress {c c' : Character} {parts : List BodyPart}
    (start : ∀ slot, Dressed handed slot (c.identity.directives slot.part) c ∨
      slot.part ∈ parts ∧ c.sheets.get slot = handed slot)
    (h : c.dress parts = .ok c') (slot : Slot) :
    Dressed handed slot (c.identity.directives slot.part) c' := by
  induction parts generalizing c with
  | nil =>
    cases h
    rcases start slot with hd | ⟨hmem, -⟩
    · exact hd
    · cases hmem
  | cons part rest ih =>
    unfold dress at h
    obtain ⟨next, happ, h⟩ := Error.bind_eq_ok.1 h
    have heq := applyDirectives_eq_ok happ
    have stays : next.identity = c.identity := by
      rw [← identity_recolorPart c part (c.identity.directives part), heq]
    rw [← stays]
    refine ih (fun other => ?_) h
    rw [stays]
    rcases start other with hd | ⟨hmem, worn⟩
    · left
      have kept := dressed_recolorPart hd part (c.identity.directives part)
      rw [heq] at kept
      split at kept
      next both => rw [← both.1]; exact kept
      next => exact kept
    · -- either it is the turn of its part, or its sheet has not been touched
      by_cases hp : other.part = part
      · left
        subst hp
        have first := dressed_of_handed (c.identity.directives other.part) worn (by rw [heq])
        rw [heq] at first
        exact first
      · right
        refine ⟨(List.mem_cons.1 hmem).resolve_left hp, ?_⟩
        rw [← worn, ← get_recolorPart_of_ne hp c (c.identity.directives part), heq]

theorem dressed_assemble {i : Identity} {given : List (Slot × Sheet)}
    (h : assemble i given = .ok c) (slot : Slot) :
    Dressed (handedOver given) slot (i.directives slot.part) c := by
  obtain ⟨bare, rfl, worn, -, hdress⟩ := assemble_eq_ok h
  exact dressed_dress (fun other => .inr ⟨BodyPart.mem_all other.part, worn other⟩) hdress slot

/-! ## Characters that can come about -/

/-- The characters that calls can lead to, from sheets that calls can lead to. -/
inductive Reachable : Character → Prop
  | assemble {i : Identity} {given : List (Slot × Sheet)} {c : Character} :
      (∀ s ∈ given, s.2.Reachable) → assemble i given = .ok c → Reachable c
  | perform {c : Character} (r : Request) : Reachable c → Reachable (c.perform r)

theorem reachable_performAll (h : Reachable c) (rs : List Request) :
    Reachable (c.performAll rs) := by
  induction rs generalizing c with
  | nil => exact h
  | cons r rs ih => exact ih (.perform r h)

/-- The character of an identity with the same picture in each slot that has to have a sheet. -/
def inOnePicture (i : Identity) (picture : Bitmap) (atlas : Atlas) : Except Error Character := do
  let sheet ← Sheet.ofAtlas picture atlas
  assemble i ((Slot.drawOrder.filter Slot.isRequired).map fun slot => (slot, sheet))

theorem reachable_inOnePicture {i : Identity} {picture : Bitmap} {atlas : Atlas}
    (h : inOnePicture i picture atlas = .ok c) : Reachable c := by
  obtain ⟨sheet, hs, dressed⟩ := Error.bind_eq_ok.1 h
  refine .assemble (fun s mem => ?_) dressed
  obtain ⟨_, -, rfl⟩ := List.mem_map.1 mem
  exact ⟨picture, atlas, sheet, [], hs, rfl⟩

/-- No call takes a sheet off or puts one on. -/
theorem isSome_get_perform (c : Character) (r : Request) (slot : Slot) :
    ((c.perform r).sheets.get slot).isSome = (c.sheets.get slot).isSome := by
  cases r with
  | applyDirectives part text =>
    show ((c.recolorPart part text).1.sheets.get slot).isSome = _
    rcases recolorPart_cases c part text with
      ⟨_, _, -, heq, hget⟩ | ⟨_, -, heq⟩ | ⟨_, -, heq, -⟩ <;> rw [heq]
    rw [hget]
    split
    next => rw [Option.isSome_map]
    next => rfl
  | reset part =>
    show ((c.reset part).sheets.get slot).isSome = _
    rw [get_reset]
    split
    next => rw [Option.isSome_map]
    next => rfl
  | setState state => rfl

/-- **The slots that have to have a sheet have one.** -/
theorem isSome_get_of_reachable (h : Reachable c) (required : slot.isRequired) :
    (c.sheets.get slot).isSome := by
  induction h with
  | @assemble i given c _ hc =>
    obtain ⟨coat, worn, -⟩ := dressed_assemble hc slot
    obtain ⟨bare, -, hbare, complete, -⟩ := assemble_eq_ok hc
    rw [worn, Option.isSome_map, ← hbare]
    have checked := List.find?_eq_none.1 complete slot (Slot.mem_drawOrder slot)
    simpa [required, Option.isSome_iff_ne_none] using checked
  | perform r _ ih => rw [isSome_get_perform]; exact ih

/-- In every slot there is a sheet that was handed over, in some coat; calls can lead to that
sheet. -/
theorem dressed_of_reachable (h : Reachable c) :
    ∃ handed : Slot → Option Sheet, (∀ slot, ∀ sheet ∈ handed slot, sheet.Reachable) ∧
      ∀ slot, ∃ text, Dressed handed slot text c := by
  induction h with
  | assemble given hc =>
    refine ⟨_, fun slot sheet mem => ?_, fun slot => ⟨_, dressed_assemble hc slot⟩⟩
    exact given _ (mem_of_handedOver mem)
  | perform r _ ih =>
    obtain ⟨handed, given, dressed⟩ := ih
    refine ⟨handed, given, fun slot => ?_⟩
    obtain ⟨text, h⟩ := dressed slot
    exact ⟨_, dressed_perform h r⟩

/-- **A sheet in use** is one that calls can lead to, in a coat that the directives of its part
denote. -/
theorem wear_of_reachable {sheet : Sheet} (h : Reachable c)
    (loaded : c.sheets.get slot = some sheet) :
    ∃ (before : Sheet) (coat : Option Coat), before.Reachable ∧ sheet = before.wear coat ∧
      Recoloring.parse (c.directives slot.part) = .ok (coatColors coat) := by
  obtain ⟨handed, given, dressed⟩ := dressed_of_reachable h
  obtain ⟨text, dressedSlot⟩ := dressed slot
  obtain ⟨before, coat, hbefore, rfl, inForce, -, parsed⟩ := dressedSlot.wear loaded
  exact ⟨before, coat, given slot before hbefore, rfl, by rw [inForce]; exact parsed⟩

/-- The picture that is drawn has the size of the one that was handed over. -/
theorem sides_of_reachable {sheet : Sheet} (h : Reachable c)
    (loaded : c.sheets.get slot = some sheet) :
    sheet.working.width = sheet.pristine.width ∧ sheet.working.height = sheet.pristine.height := by
  obtain ⟨before, coat, -, rfl, -⟩ := wear_of_reachable h loaded
  rw [Sheet.working_wear, Sheet.pristine_wear]
  exact ⟨rfl, rfl⟩

/-! ## Every run -/

/-- The sheet shows the picture of `before` in the colors that a directive text gives it. -/
structure Wears (before sheet : Sheet) (text : String) : Prop where
  directives : sheet.directives = text
  colors : ∃ m, Recoloring.parse text = .ok m ∧
    sheet.working.bytes = m.applyBuffer sheet.pristine.bytes
  width : sheet.working.width = sheet.pristine.width
  height : sheet.working.height = sheet.pristine.height
  pristine : sheet.pristine = before.pristine
  palette : sheet.palette = before.palette
  frames : sheet.frames = before.frames

theorem wears_wear (before : Sheet) {coat : Option Coat}
    (read : Recoloring.parse (coatText coat) = .ok (coatColors coat)) :
    Wears before (before.wear coat) (coatText coat) where
  directives := Sheet.directives_wear before coat
  colors := ⟨coatColors coat, read, by
    rw [Sheet.working_wear, Sheet.pristine_wear, Bitmap.bytes_recolor]⟩
  width := by rw [Sheet.working_wear, Sheet.pristine_wear]; rfl
  height := by rw [Sheet.working_wear, Sheet.pristine_wear]; rfl
  pristine := Sheet.pristine_wear before coat
  palette := Sheet.palette_wear before coat
  frames := Sheet.frames_wear before coat

/-- **The sheets keep to the directives of their parts**, in every character that calls can lead
to; and these are the last ones that could be read. -/
theorem performAll_keeps_outfit {i : Identity} {given : List (Slot × Sheet)}
    (h : assemble i given = .ok c) (rs : List Request) (part : BodyPart) :
    ∀ slot ∈ part.slots,
      ((c.performAll rs).sheets.get slot).isSome = (handedOver given slot).isSome ∧
      ∀ sheet, (c.performAll rs).sheets.get slot = some sheet →
        ∃ before, handedOver given slot = some before ∧
          Wears before sheet ((c.performAll rs).directives part) ∧
          (c.performAll rs).directives part =
            rs.foldl (Request.directivesAfter part) (i.directives part) := by
  intro slot hslot
  obtain rfl := BodyPart.mem_slots.1 hslot
  obtain ⟨coat, worn, read⟩ := dressed_performAll (dressed_assemble h slot) rs
  refine ⟨by rw [worn, Option.isSome_map], fun sheet loaded => ?_⟩
  rw [loaded, eq_comm, Option.map_eq_some_iff] at worn
  obtain ⟨before, hbefore, rfl⟩ := worn
  obtain ⟨inForce, htext, hparse⟩ := read (by rw [hbefore]; rfl)
  refine ⟨before, hbefore, ?_, inForce⟩
  rw [inForce, ← htext]
  rw [← htext] at hparse
  exact wears_wear before hparse

def specks : Sheet where
  pristine := Sheet.fourSpecks
  working := Sheet.fourSpecks
  frames := .empty
  palette := .ofPixels Sheet.fourSpecks.pixels.toList

/-- Sheets of the required slots; that of the head is recolored, and replaces another one. -/
def fourSheets : List (Slot × Sheet) :=
  [(.head, specks), (.backArm, specks), (.body, specks), (.frontArm, specks),
    (.head, specks.recolor (.after .same (.table .empty)))]

/-- Calls on two parts; one text cannot be read, and one part has no sheet. -/
def fittings : List Request :=
  [.applyDirectives .body "?replace;aabbcc=ff0000", .applyDirectives .body "?replace;aabbcc",
    .setState "walk.1", .applyDirectives .hair "?replace;=", .reset .hair]

theorem performAll_keeps_outfit_fittings :
    ∃ c sheet before,
      assemble { bodyDirectives := "?replace;aabbcc=112233" } fourSheets = .ok c ∧
      (c.performAll fittings).sheets.get .head = some sheet ∧
      handedOver fourSheets .head = some before ∧
      Wears before sheet ((c.performAll fittings).directives .body) ∧
      (c.performAll fittings).directives .body = "?replace;aabbcc=ff0000" ∧
      (c.sheets.get .head).map (·.working.pixels[0]?) = some (some ⟨0x11, 0x22, 0x33, 0x40⟩) ∧
      sheet.working.pixels =
        #[⟨0xff, 0, 0, 0x40⟩, ⟨0, 0, 0, 255⟩, ⟨0x10, 0x20, 0x30, 0⟩, .transparent] := by
  have run : (assemble { bodyDirectives := "?replace;aabbcc=112233" } fourSheets).toOption.map
      (fun c => ((c.sheets.get .head).map (·.working.pixels[0]?),
        ((c.performAll fittings).sheets.get .head).map (·.working.pixels))) =
      some (some (some ⟨0x11, 0x22, 0x33, 0x40⟩), some
        #[⟨0xff, 0, 0, 0x40⟩, ⟨0, 0, 0, 255⟩, ⟨0x10, 0x20, 0x30, 0⟩, .transparent]) := by
    decide +kernel
  obtain ⟨c, assembled, shown⟩ := Option.map_eq_some_iff.1 run
  obtain ⟨first, last⟩ := Prod.mk.inj shown
  obtain ⟨sheet, hsheet, pixels⟩ := Option.map_eq_some_iff.1 last
  have ok := Error.eq_ok_of_toOption assembled
  obtain ⟨before, hbefore, wears, text⟩ :=
    (performAll_keeps_outfit ok fittings .body .head (by decide)).2 sheet hsheet
  exact ⟨c, sheet, before, ok, hsheet, hbefore, wears, text.trans (by decide +kernel), first,
    pixels⟩

end Paperdoll.Character
