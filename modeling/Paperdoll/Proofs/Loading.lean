import Paperdoll.Asset.Loader
import Paperdoll.Proofs.Chain
import Paperdoll.Proofs.Refusal
import Paperdoll.Proofs.Resolution

/-!
# Loading: what comes of an identity and a source of assets

Whatever the source answers and however files are decoded, loading a character ends in one of four
ways: the identity is incomplete, a sheet cannot be loaded, the directives cannot be read, or there
is a character.

**Theorem (`loadCharacter_outcome`).** There is a character exactly if species and gender are
given, the sheet of every slot with files can be loaded, and the directives of every such slot can
be read. It has the sheets of these slots and no other; each of them holds the decoded picture and
the table of the decoded frames, in the colors that the directives of its part give it. If loading
fails because a picture and its frames do not agree, these are the files of the first slot in
drawing order whose sheet cannot be loaded. If it fails with an error of the character, all sheets
have been loaded, and a directive text could not be read.

Each layer is inverted by itself (`loadSheet_cases`, `loadSheets_eq`, `loadCharacter_cases`), so an
error is traced to the layer that it came from. That no sheet is missing once all of them are
loaded rests on an agreement of two functions: the slots that have to have a sheet are given files
by every identity (`isSome_sheetFiles?`).
-/

namespace Paperdoll

/-! ## Errors of directive texts -/

/-- The errors with which a directive text cannot be read. -/
inductive Error.OfText : Error → Prop
  | command (index : Nat) (segment : String) : OfText (.malformedDirective index segment)
  | color (value : String) (fault : ColorFault) : OfText (.invalidColor value fault)

variable {e : Error}

theorem Error.OfText.not_isAssetInconsistency (h : e.OfText) : ¬ e.isAssetInconsistency := by
  cases h <;> exact Bool.false_ne_true

theorem Directive.ofText_of_parseSegments {index : Nat} {segments : List String}
    (h : parseSegments index segments = .error e) : e.OfText := by
  induction segments generalizing index with
  | nil => cases h
  | cons segment rest ih =>
    unfold parseSegments at h
    rcases Error.bind_eq_error.1 h with failed | ⟨first, -, h⟩
    · rcases parseSegment_cases segment with ⟨d, read⟩ | refused
      · cases (read index).symm.trans failed
      · cases (refused index).symm.trans failed
        exact .command index segment
    · rcases Error.bind_eq_error.1 h with failed | ⟨others, -, h⟩
      · exact ih failed
      · cases h

theorem Color.ofText_of_parse {value : String} (h : Color.parse value = .error e) : e.OfText := by
  unfold Color.parse at h
  simp only at h
  split at h
  next => cases h; exact .color value .empty
  next =>
    split at h
    next => cases h; exact .color value .notHexadecimal
    next =>
      split at h
      next => cases h; exact .color value .unevenLength
      next => cases h

namespace Substitution

theorem ofText_of_parsePair {arg : String} (h : parsePair arg = .error e) : e.OfText := by
  unfold parsePair at h
  split at h
  next => cases h; exact .color arg .noAssignment
  next source target _ =>
    rcases Error.bind_eq_error.1 h with failed | ⟨_, -, h⟩
    · exact Color.ofText_of_parse failed
    · rcases Error.bind_eq_error.1 h with failed | ⟨_, -, h⟩
      · exact Color.ofText_of_parse failed
      · cases h

theorem ofText_of_insertArgs {s : Substitution} {args : List String}
    (h : s.insertArgs args = .error e) : e.OfText := by
  induction args generalizing s with
  | nil => cases h
  | cons arg rest ih =>
    unfold insertArgs at h
    split at h
    next => exact ih h
    next =>
      rcases Error.bind_eq_error.1 h with failed | ⟨pair, -, h⟩
      · exact ofText_of_parsePair failed
      · exact ih h

end Substitution

namespace Recoloring

theorem ofText_of_addDirectives {m : Recoloring} {ds : List Directive}
    (h : m.addDirectives ds = .error e) : e.OfText := by
  induction ds generalizing m with
  | nil => cases h
  | cons d ds ih =>
    unfold addDirectives at h
    split at h
    next =>
      rcases Error.bind_eq_error.1 h with failed | ⟨s, -, h⟩
      · exact Substitution.ofText_of_insertArgs failed
      · exact ih h
    next => exact ih h

/-- **What can be wrong with a directive text**: a command is missing, or a color is no color. -/
theorem ofText_of_parse {text : String} (h : parse text = .error e) : e.OfText := by
  unfold parse at h
  rcases Error.bind_eq_error.1 h with failed | ⟨ds, -, h⟩
  · exact Directive.ofText_of_parseSegments failed
  · exact ofText_of_addDirectives h

end Recoloring

/-! ## Errors of a sheet and of a character -/

/-- Frames that cannot be put into a table contradict themselves. -/
theorem FrameTable.isAssetInconsistency_of_build {a : Atlas} (h : build a = .error e) :
    e.isAssetInconsistency := by
  rcases build_cases a with
    ⟨-, fault, failed⟩ | ⟨-, -, t, ok, -⟩ | ⟨-, _, _, target, -, -, -, failed⟩
  · cases failed.symm.trans h
    rfl
  · cases ok.symm.trans h
  · cases failed.symm.trans h
    rfl

namespace Character

variable {i : Identity} {given : List (Slot × Sheet)}

/-- With all sheets that have to be there, assembling fails only where a part with a sheet has
directives that cannot be read. -/
theorem refused_of_assemble
    (complete : ∀ slot : Slot, slot.isRequired → (handedOver given slot).isSome)
    (h : assemble i given = .error e) :
    ∃ slot : Slot, (handedOver given slot).isSome ∧
      Recoloring.parse (i.directives slot.part) = .error e := by
  obtain ⟨bare, rfl, worn, heq⟩ := assemble_of_complete (i := i) complete
  rw [heq, dress_eq_error] at h
  obtain ⟨part, -, refused⟩ := List.exists_of_findSome?_eq_some h
  unfold refusal? at refused
  split at refused
  next => cases refused
  next e' unreadable =>
    obtain ⟨⟨slot, mem, loaded⟩, same⟩ := Option.ite_none_right_eq_some.1 refused
    obtain rfl := BodyPart.mem_slots.1 mem
    cases same
    exact ⟨slot, by rw [← worn]; exact loaded, unreadable⟩

theorem exists_assemble_iff
    (complete : ∀ slot : Slot, slot.isRequired → (handedOver given slot).isSome) :
    (∃ c, assemble i given = .ok c) ↔ ∀ slot, (handedOver given slot).isSome →
      ∃ m, Recoloring.parse (i.directives slot.part) = .ok m := by
  constructor
  · rintro ⟨c, hc⟩ slot loaded
    obtain ⟨coat, -, read⟩ := dressed_assemble hc slot
    exact ⟨_, (read loaded).2.2⟩
  · intro readable
    cases h : assemble i given with
    | ok c => exact ⟨c, rfl⟩
    | error e =>
      obtain ⟨slot, loaded, unreadable⟩ := refused_of_assemble complete h
      obtain ⟨m, read⟩ := readable slot loaded
      cases read.symm.trans unreadable

theorem handedOver_filterMap (f : Slot → Option Sheet) (slots : List Slot) (slot : Slot) :
    handedOver (slots.filterMap fun slot => (f slot).map fun sheet => (slot, sheet)) slot =
      if slot ∈ slots then f slot else none := by
  induction slots with
  | nil => rfl
  | cons first rest ih =>
    cases hf : f first with
    | none =>
      rw [List.filterMap_cons_none (by rw [hf]; rfl), ih]
      by_cases same : slot = first
      · subst same
        rw [hf, ite_self, ite_self]
      · simp [same]
    | some sheet =>
      rw [List.filterMap_cons_some (by rw [hf]; rfl), handedOver_cons, ih]
      by_cases same : slot = first
      · subst same
        rw [if_pos rfl, if_pos List.mem_cons_self, hf]
        split <;> rfl
      · simp [same]

end Character

/-- **The slots that have to have a sheet are given files** by every identity. -/
theorem Identity.isSome_sheetFiles? (i : Identity) {slot : Slot} (required : slot.isRequired) :
    (i.sheetFiles? slot).isSome := by
  cases slot <;> first | rfl | cases required

/-! ## One sheet -/

namespace Loader

open Character (handedOver)

variable {l : Loader} {i : Identity} {files : SheetFiles} {slot : Slot}

def HoldsPicture (l : Loader) (path : String) (picture : Bitmap) : Prop :=
  ∃ bytes, l.source.read path = .ok bytes ∧ l.decodePicture bytes = some picture

def HoldsAtlas (l : Loader) (path : String) (atlas : Atlas) : Prop :=
  ∃ bytes text, l.source.read path = .ok bytes ∧ Text.Utf8.decode bytes = .ok text ∧
    l.decodeFrames text = .ok atlas

/-- The errors with which one of the files cannot be read or decoded. -/
inductive Undecoded (files : SheetFiles) : LoadError → Prop
  | asset (e : AssetError) : Undecoded files (.asset e)
  | picture : Undecoded files (.picture files.picture)
  | notText (fault : Text.Utf8.Fault) : Undecoded files (.notText files.frames fault)
  | frames : Undecoded files (.frames files.frames)
  | brokenOff : Undecoded files (.brokenOff files.frames)

theorem loadPicture_cases (l : Loader) (files : SheetFiles) :
    (∃ e, Undecoded files e ∧ l.loadPicture files.picture = .error e) ∨
    ∃ picture, l.HoldsPicture files.picture picture ∧
      l.loadPicture files.picture = .ok picture := by
  unfold loadPicture readAsset
  cases read : l.source.read files.picture with
  | error e => exact .inl ⟨_, .asset e, rfl⟩
  | ok bytes =>
    simp only [Error.mapError_ok, bind, Except.bind]
    cases decoded : l.decodePicture bytes with
    | none => exact .inl ⟨_, .picture, rfl⟩
    | some picture => exact .inr ⟨picture, ⟨bytes, read, decoded⟩, rfl⟩

theorem loadFrames_cases (l : Loader) (files : SheetFiles) :
    (∃ e, Undecoded files e ∧ l.loadFrames files.frames = .error e) ∨
    ∃ atlas, l.HoldsAtlas files.frames atlas ∧ l.loadFrames files.frames = .ok atlas := by
  unfold loadFrames readAsset
  cases read : l.source.read files.frames with
  | error e => exact .inl ⟨_, .asset e, rfl⟩
  | ok bytes =>
    simp only [Error.mapError_ok, bind, Except.bind]
    cases spelled : Text.Utf8.decode bytes with
    | error fault => exact .inl ⟨_, .notText fault, rfl⟩
    | ok text =>
      simp only [Error.mapError_ok]
      cases decoded : l.decodeFrames text with
      | ok atlas => exact .inr ⟨atlas, ⟨bytes, text, read, spelled, decoded⟩, rfl⟩
      | error failure =>
        cases failure with
        | refused => exact .inl ⟨_, .frames, rfl⟩
        | brokenOff => exact .inl ⟨_, .brokenOff, rfl⟩

/-- **What loading a sheet can do.** Only a picture and frames that have both been decoded can fail
to agree. -/
theorem loadSheet_cases (l : Loader) (files : SheetFiles) :
    (∃ e, Undecoded files e ∧ l.loadSheet files = .error e) ∨
    ∃ picture atlas, l.HoldsPicture files.picture picture ∧ l.HoldsAtlas files.frames atlas ∧
      l.loadSheet files = (Sheet.ofAtlas picture atlas).mapError (.sheet files.picture) := by
  unfold loadSheet
  rcases loadPicture_cases l files with ⟨e, kind, failed⟩ | ⟨picture, held, ok⟩
  · exact .inl ⟨e, kind, by rw [failed]; rfl⟩
  · rcases loadFrames_cases l files with ⟨e, kind, failed⟩ | ⟨atlas, declared, ok'⟩
    · exact .inl ⟨e, kind, by rw [ok, failed]; rfl⟩
    · exact .inr ⟨picture, atlas, held, declared, by rw [ok, ok']; rfl⟩

theorem loadSheet_eq_ok {sheet : Sheet} (h : l.loadSheet files = .ok sheet) :
    ∃ picture atlas, l.HoldsPicture files.picture picture ∧ l.HoldsAtlas files.frames atlas ∧
      Sheet.ofAtlas picture atlas = .ok sheet := by
  rcases loadSheet_cases l files with ⟨e, -, failed⟩ | ⟨picture, atlas, held, declared, heq⟩
  · cases failed.symm.trans h
  · rw [heq, Error.mapError_eq_ok] at h
    exact ⟨picture, atlas, held, declared, h⟩

theorem loadSheet_eq_error {e : LoadError} (h : l.loadSheet files = .error e) :
    Undecoded files e ∨ ∃ fault, fault.isAssetInconsistency ∧ e = .sheet files.picture fault := by
  rcases loadSheet_cases l files with ⟨e', kind, failed⟩ | ⟨picture, atlas, -, -, heq⟩
  · cases failed.symm.trans h
    exact .inl kind
  · rw [heq, Error.mapError_eq_error] at h
    obtain ⟨fault, made, rfl⟩ := h
    rcases Error.bind_eq_error.1 made with failed | ⟨frames, -, built⟩
    · exact .inr ⟨fault, FrameTable.isAssetInconsistency_of_build failed, rfl⟩
    · cases built

/-! ## All sheets -/

/-- The sheet of a slot, if it has files from which it can be loaded. -/
def sheet? (l : Loader) (i : Identity) (slot : Slot) : Option Sheet :=
  (i.sheetFiles? slot).bind fun files => (l.loadSheet files).toOption

/-- Why the sheet of a slot cannot be loaded, if it has files from which it cannot. -/
def failure? (l : Loader) (i : Identity) (slot : Slot) : Option LoadError :=
  (i.sheetFiles? slot).bind fun files =>
    match l.loadSheet files with
    | .ok _ => none
    | .error e => some e

/-- If the slot has files, its sheet can be loaded. -/
def Loads (l : Loader) (i : Identity) (slot : Slot) : Prop :=
  ∀ files, i.sheetFiles? slot = some files → ∃ sheet, l.loadSheet files = .ok sheet

theorem failure?_eq_some {e : LoadError} :
    l.failure? i slot = some e ↔
      ∃ files, i.sheetFiles? slot = some files ∧ l.loadSheet files = .error e := by
  unfold failure?
  rw [Option.bind_eq_some_iff]
  refine exists_congr fun files => and_congr_right fun _ => ?_
  cases l.loadSheet files <;> simp

theorem failure?_eq_none : l.failure? i slot = none ↔ l.Loads i slot := by
  unfold failure? Loads
  rw [Option.bind_eq_none_iff]
  refine forall₂_congr fun files _ => ?_
  cases l.loadSheet files <;> simp

theorem sheet?_eq_some {sheet : Sheet} :
    l.sheet? i slot = some sheet ↔
      ∃ files, i.sheetFiles? slot = some files ∧ l.loadSheet files = .ok sheet := by
  unfold sheet?
  rw [Option.bind_eq_some_iff]
  refine exists_congr fun files => and_congr_right fun _ => ?_
  cases l.loadSheet files <;> simp [Except.toOption]

theorem Loads.isSome_sheet? (h : l.Loads i slot) :
    (l.sheet? i slot).isSome = (i.sheetFiles? slot).isSome := by
  unfold sheet?
  cases given : i.sheetFiles? slot with
  | none => rfl
  | some files =>
    obtain ⟨sheet, ok⟩ := h files given
    show (l.loadSheet files).toOption.isSome = true
    rw [ok]
    rfl

/-- **The sheets of slots**: loading stops at the first one that fails. -/
theorem loadSheets_eq (l : Loader) (i : Identity) (slots : List Slot) :
    l.loadSheets i slots =
      match slots.findSome? (l.failure? i) with
      | some e => .error e
      | none => .ok <| slots.filterMap fun slot =>
          (l.sheet? i slot).map fun sheet => (slot, sheet) := by
  induction slots with
  | nil => rfl
  | cons slot rest ih =>
    unfold loadSheets
    rw [List.findSome?_cons, List.filterMap_cons, ih]
    cases given : i.sheetFiles? slot with
    | none => simp [failure?, sheet?, given]
    | some files =>
      cases sheet : l.loadSheet files with
      | error e => simp [failure?, given, sheet, bind, Except.bind]
      | ok s =>
        simp only [failure?, sheet?, given, sheet, Option.bind_some, Option.map_some, bind,
          Except.bind, Except.toOption]
        cases rest.findSome? (l.failure? i) <;> rfl

/-! ## The character -/

/-- The first slot in drawing order whose sheet cannot be loaded has these files, and fails with
this error. -/
def FirstFailure (l : Loader) (i : Identity) (files : SheetFiles) (e : LoadError) : Prop :=
  ∃ before slot after, Slot.drawOrder = before ++ slot :: after ∧
    (∀ other ∈ before, l.Loads i other) ∧ i.sheetFiles? slot = some files ∧
    l.loadSheet files = .error e

theorem FirstFailure.loadSheet {e : LoadError} (h : l.FirstFailure i files e) :
    l.loadSheet files = .error e := by
  obtain ⟨_, _, _, -, -, -, failed⟩ := h
  exact failed

theorem FirstFailure.exists_not_loads {e : LoadError} (h : l.FirstFailure i files e) :
    ∃ slot, ¬ l.Loads i slot := by
  obtain ⟨_, slot, _, -, -, hfiles, failed⟩ := h
  refine ⟨slot, fun loads => ?_⟩
  obtain ⟨sheet, ok⟩ := loads files hfiles
  cases ok.symm.trans failed

/-- All sheets have been loaded, and these are they. -/
structure AllLoaded (l : Loader) (i : Identity) (given : List (Slot × Sheet)) : Prop where
  loads : ∀ slot, l.Loads i slot
  handedOver : ∀ slot, handedOver given slot = l.sheet? i slot

variable {given : List (Slot × Sheet)}

theorem AllLoaded.isSome (h : l.AllLoaded i given) (slot : Slot) :
    (Character.handedOver given slot).isSome = (i.sheetFiles? slot).isSome := by
  rw [h.handedOver, (h.loads slot).isSome_sheet?]

theorem AllLoaded.complete (h : l.AllLoaded i given) (slot : Slot) (required : slot.isRequired) :
    (Character.handedOver given slot).isSome := by
  rw [h.isSome]
  exact i.isSome_sheetFiles? required

/-- **What loading a character can do.** -/
theorem loadCharacter_cases (l : Loader) (i : Identity) :
    (¬ (i.species ≠ "" ∧ i.gender ≠ "") ∧
      ∃ field, l.loadCharacter i = .error (.incompleteIdentity field)) ∨
    (∃ files e, l.FirstFailure i files e ∧ l.loadCharacter i = .error e) ∨
    ((i.species ≠ "" ∧ i.gender ≠ "") ∧ ∃ given, l.AllLoaded i given ∧
      l.loadCharacter i = (Character.assemble i given).mapError .sprite) := by
  unfold loadCharacter
  by_cases species : i.species = ""
  · exact .inl ⟨fun both => both.1 species, _, if_pos species⟩
  · rw [if_neg species]
    by_cases gender : i.gender = ""
    · exact .inl ⟨fun both => both.2 gender, _, if_pos gender⟩
    · rw [if_neg gender, loadSheets_eq]
      refine .inr ?_
      cases failed : Slot.drawOrder.findSome? (l.failure? i) with
      | some e =>
        obtain ⟨before, slot, after, split, fails, earlier⟩ := List.findSome?_eq_some_iff.1 failed
        obtain ⟨files, hfiles, herror⟩ := failure?_eq_some.1 fails
        exact .inl ⟨files, e, ⟨before, slot, after, split,
          fun other mem => failure?_eq_none.1 (earlier other mem), hfiles, herror⟩, rfl⟩
      | none =>
        refine .inr ⟨⟨species, gender⟩, _, ⟨fun slot => ?_, fun slot => ?_⟩, rfl⟩
        · exact failure?_eq_none.1 (List.findSome?_eq_none_iff.1 failed slot slot.mem_drawOrder)
        · rw [Character.handedOver_filterMap, if_pos slot.mem_drawOrder]

theorem loadCharacter_eq_ok {c : Character} (h : l.loadCharacter i = .ok c) :
    (i.species ≠ "" ∧ i.gender ≠ "") ∧ ∃ given, l.AllLoaded i given ∧
      Character.assemble i given = .ok c := by
  rcases loadCharacter_cases l i with
    ⟨-, field, failed⟩ | ⟨files, e, -, failed⟩ | ⟨located, given, all, heq⟩
  · cases failed.symm.trans h
  · cases failed.symm.trans h
  · exact ⟨located, given, all, Error.mapError_eq_ok.1 (heq.symm.trans h)⟩

theorem loadCharacter_eq_sheet {path : String} {e : Error}
    (h : l.loadCharacter i = .error (.sheet path e)) :
    e.isAssetInconsistency ∧
      ∃ files, l.FirstFailure i files (.sheet path e) ∧ path = files.picture := by
  rcases loadCharacter_cases l i with
    ⟨-, field, failed⟩ | ⟨files, e', first, failed⟩ | ⟨-, given, -, heq⟩
  · cases failed.symm.trans h
  · cases failed.symm.trans h
    rcases loadSheet_eq_error first.loadSheet with kind | ⟨_, inconsistent, same⟩
    · cases kind
    · cases same
      exact ⟨inconsistent, files, first, rfl⟩
  · obtain ⟨_, -, other⟩ := Error.mapError_eq_error.1 (heq.symm.trans h)
    cases other

theorem loadCharacter_eq_sprite {e : Error} (h : l.loadCharacter i = .error (.sprite e)) :
    ∃ given, l.AllLoaded i given ∧ Character.assemble i given = .error e := by
  rcases loadCharacter_cases l i with
    ⟨-, field, failed⟩ | ⟨files, e', first, failed⟩ | ⟨-, given, all, heq⟩
  · cases failed.symm.trans h
  · cases failed.symm.trans h
    rcases loadSheet_eq_error first.loadSheet with kind | ⟨_, -, same⟩
    · cases kind
    · cases same
  · obtain ⟨fault, failed, same⟩ := Error.mapError_eq_error.1 (heq.symm.trans h)
    cases same
    exact ⟨given, all, failed⟩

/-- **When there is a character.** -/
theorem exists_loadCharacter_iff (l : Loader) (i : Identity) :
    (∃ c, l.loadCharacter i = .ok c) ↔
      (i.species ≠ "" ∧ i.gender ≠ "") ∧ (∀ slot, l.Loads i slot) ∧
      ∀ slot, (i.sheetFiles? slot).isSome →
        ∃ m, Recoloring.parse (i.directives slot.part) = .ok m := by
  constructor
  · rintro ⟨c, h⟩
    obtain ⟨located, given, all, assembled⟩ := loadCharacter_eq_ok h
    refine ⟨located, all.loads, fun slot given => ?_⟩
    rw [← all.isSome] at given
    exact (Character.exists_assemble_iff all.complete).1 ⟨c, assembled⟩ slot given
  · rintro ⟨located, loads, readable⟩
    rcases loadCharacter_cases l i with
      ⟨lost, -⟩ | ⟨files, e, first, -⟩ | ⟨-, given, all, heq⟩
    · exact absurd located lost
    · obtain ⟨slot, fails⟩ := first.exists_not_loads
      exact absurd (loads slot) fails
    · simp only [← all.isSome] at readable
      obtain ⟨c, assembled⟩ := (Character.exists_assemble_iff all.complete).2 readable
      exact ⟨c, by rw [heq, assembled]; rfl⟩

/-! ## The sheets of the character -/

/-- The sheet holds the picture and the frames of two files, in the colors that a directive text
gives it. -/
structure Gives (l : Loader) (files : SheetFiles) (text : String) (sheet : Sheet) : Prop where
  picture : l.HoldsPicture files.picture sheet.pristine
  frames : ∃ atlas, l.HoldsAtlas files.frames atlas ∧ FrameTable.build atlas = .ok sheet.frames
  directives : sheet.directives = text
  colors : ∃ m, Recoloring.parse text = .ok m ∧ sheet.working = sheet.pristine.recolor m

theorem gives_wear {fresh : Sheet} {coat : Option Sheet.Coat} (h : l.loadSheet files = .ok fresh)
    (read : Recoloring.parse (Sheet.coatText coat) = .ok (Sheet.coatColors coat)) :
    l.Gives files (Sheet.coatText coat) (fresh.wear coat) := by
  obtain ⟨picture, atlas, held, declared, made⟩ := loadSheet_eq_ok h
  obtain ⟨frames, built, heq⟩ := Error.bind_eq_ok.1 made
  cases heq
  refine ⟨?_, ⟨atlas, declared, ?_⟩, Sheet.directives_wear _ coat, _, read, ?_⟩
  · rw [Sheet.pristine_wear]
    exact held
  · rw [Sheet.frames_wear]
    exact built
  · rw [Sheet.working_wear, Sheet.pristine_wear]

theorem gives_of_assemble {c : Character} {sheet : Sheet} (all : l.AllLoaded i given)
    (h : Character.assemble i given = .ok c) (loaded : c.sheets.get slot = some sheet) :
    ∃ files, i.sheetFiles? slot = some files ∧ l.Gives files (i.directives slot.part) sheet := by
  obtain ⟨fresh, coat, hfresh, rfl, -, text, parsed⟩ :=
    (Character.dressed_assemble h slot).wear loaded
  obtain ⟨files, hfiles, ok⟩ := sheet?_eq_some.1 ((all.handedOver slot).symm.trans hfresh)
  rw [← text] at parsed ⊢
  exact ⟨files, hfiles, gives_wear ok parsed⟩

/-- **What comes of loading a character**, with any source of assets and any decoders. -/
theorem loadCharacter_outcome (l : Loader) (i : Identity) :
    ((∃ c, l.loadCharacter i = .ok c) ↔
      (i.species ≠ "" ∧ i.gender ≠ "") ∧ (∀ slot, l.Loads i slot) ∧
      ∀ slot, (i.sheetFiles? slot).isSome →
        ∃ m, Recoloring.parse (i.directives slot.part) = .ok m) ∧
    (∀ c, l.loadCharacter i = .ok c →
      (∀ slot, (c.sheets.get slot).isSome ↔ (i.sheetFiles? slot).isSome) ∧
      ∀ slot sheet, c.sheets.get slot = some sheet → ∃ files,
        i.sheetFiles? slot = some files ∧ l.Gives files (i.directives slot.part) sheet) ∧
    (∀ path e, l.loadCharacter i = .error (.sheet path e) →
      e.isAssetInconsistency ∧
      ∃ files, l.FirstFailure i files (.sheet path e) ∧ path = files.picture) ∧
    ∀ e, l.loadCharacter i = .error (.sprite e) →
      (∀ slot, l.Loads i slot) ∧ e.OfText ∧ ¬ e.isAssetInconsistency := by
  refine ⟨exists_loadCharacter_iff l i, fun c h => ?_, fun _ _ h => loadCharacter_eq_sheet h,
    fun e h => ?_⟩
  · obtain ⟨-, given, all, assembled⟩ := loadCharacter_eq_ok h
    refine ⟨fun slot => ?_, fun slot sheet loaded => gives_of_assemble all assembled loaded⟩
    rw [Character.isSome_get_of_assemble assembled, all.isSome]
  · obtain ⟨given, all, failed⟩ := loadCharacter_eq_sprite h
    obtain ⟨slot, -, unreadable⟩ := Character.refused_of_assemble all.complete failed
    have kind := Recoloring.ofText_of_parse unreadable
    exact ⟨all.loads, kind, kind.not_isAssetInconsistency⟩

/-- A loader whose files hold their own paths. All pictures are the same; the frames of a style
have a further name without a target. -/
def echoing : Loader where
  source := ⟨fun path => .ok path.toUTF8.data.toList, fun _ => true⟩
  decodePicture _ := some Sheet.fourSpecks
  decodeFrames path := .ok <|
    if path = "/humanoid/human/hair/default.frames" then { aliases := some [("a", "b")] } else {}

/-- An identity that makes no choice of style. -/
def bald (directives : String) : Identity where
  species := "human"
  gender := "male"
  bodyDirectives := directives

def haired : Identity :=
  { bald "" with hair := ⟨"hair", "1", ""⟩ }

theorem loadCharacter_outcome_echoing :
    (∃ c sheet files, echoing.loadCharacter (bald "?replace;aabbcc=ff0000") = .ok c ∧
      c.sheets.get .head = some sheet ∧ c.sheets.get .hair = none ∧
      echoing.Gives files "?replace;aabbcc=ff0000" sheet) ∧
    (∃ path e files, echoing.loadCharacter haired = .error (.sheet path e) ∧
      e.isAssetInconsistency ∧ echoing.FirstFailure haired files (.sheet path e) ∧
      path = files.picture) ∧
    ∃ e, echoing.loadCharacter (bald Character.commandless) = .error (.sprite e) ∧ e.OfText := by
  obtain ⟨-, dressed, -, -⟩ := loadCharacter_outcome echoing (bald "?replace;aabbcc=ff0000")
  obtain ⟨-, -, contradicted, -⟩ := loadCharacter_outcome echoing haired
  obtain ⟨-, -, -, unread⟩ := loadCharacter_outcome echoing (bald Character.commandless)
  refine ⟨?_, ?_, ?_⟩
  · have ok : (echoing.loadCharacter (bald "?replace;aabbcc=ff0000")).isOk := by decide +kernel
    cases h : echoing.loadCharacter (bald "?replace;aabbcc=ff0000") with
    | error e => rw [h] at ok; cases ok
    | ok c =>
      obtain ⟨present, gives⟩ := dressed c h
      obtain ⟨sheet, hsheet⟩ := Option.isSome_iff_exists.1 ((present .head).2 rfl)
      obtain ⟨files, -, given⟩ := gives .head sheet hsheet
      have bare : ¬ (c.sheets.get .hair).isSome := by
        rw [present .hair]
        decide +kernel
      exact ⟨c, sheet, files, rfl, hsheet, Option.not_isSome_iff_eq_none.1 bare, given⟩
  · have failed : echoing.loadCharacter haired =
        .error (.sheet "/humanoid/human/hair/1.png" (.frameNotFound "b")) := by
      rfl
    obtain ⟨inconsistent, files, first, same⟩ := contradicted _ _ failed
    exact ⟨_, _, files, failed, inconsistent, first, same⟩
  · have failed : echoing.loadCharacter (bald Character.commandless) =
        .error (.sprite (.malformedDirective 0 ";ff0000")) := by
      rfl
    exact ⟨_, failed, (unread _ failed).2.1⟩

end Loader

end Paperdoll
