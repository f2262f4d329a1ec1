import Paperdoll.Asset.Loader

/-!
# Confinement: where asset paths can lead

The paths of a character's assets are put together from what its identity says of species, gender
and styles. An identity may come from anywhere, and nothing in it is escaped: its texts may hold
slashes, backslashes and dots.

**Theorem (`paths_confined`).** A path is invalid, or it leads down a list of steps, each of which
names an entry of the directory reached so far and nothing else. The steps are the same for the
normalized path, which is normalized to itself, and below any root the file is found by taking them
from there. The paths of a character are invalid or lead to something below `humanoid`, whatever its
identity says. So a character that is loaded from a directory is the same one that is loaded when
there is nothing in it but `humanoid`.

A path falls apart at its separators, and putting paths together puts their steps together
(`parts_append_slash`); so what an identity brings in stays between the first step and the rest.
That something is left of the rest follows from a single letter of the ending (`parts_ne_nil`). A
loader asks for the paths of a character and no others (`loadCharacter_congr`), and walking down a
directory looks at nothing beside the first step (`entry_only`).
-/

namespace Paperdoll

namespace Asset

/-! ## Steps -/

/-- The text names an entry of a directory: it neither stays nor climbs, and it is one step. -/
structure IsStep (s : String) : Prop where
  ne_empty : s ≠ ""
  ne_dot : s ≠ "."
  ne_dots : s ≠ ".."
  slash : '/' ∉ s.toList
  backslash : '\\' ∉ s.toList

instance (s : String) : Decidable (IsStep s) :=
  decidable_of_iff (s ≠ "" ∧ s ≠ "." ∧ s ≠ ".." ∧ '/' ∉ s.toList ∧ '\\' ∉ s.toList)
    ⟨fun ⟨h, h', h'', h₁, h₂⟩ => ⟨h, h', h'', h₁, h₂⟩,
      fun ⟨h, h', h'', h₁, h₂⟩ => ⟨h, h', h'', h₁, h₂⟩⟩

variable {path s : String} {steps : List String}

theorem isSeparator_eq_false {c : Char} : isSeparator c = false ↔ c ≠ '/' ∧ c ≠ '\\' := by
  simp [isSeparator]

theorem IsStep.undivided (h : IsStep s) : ∀ c ∈ s.toList, isSeparator c = false := by
  intro c mem
  rw [isSeparator_eq_false]
  constructor
  · rintro rfl
    exact h.slash mem
  · rintro rfl
    exact h.backslash mem

theorem isStep_of_mem_parts (up : ".." ∉ parts path) (h : s ∈ parts path) : IsStep s := by
  have climbs : s ≠ ".." := by
    rintro rfl
    exact up h
  obtain ⟨mem, counts⟩ := List.mem_filter.1 h
  obtain ⟨piece, hpiece, rfl⟩ := List.mem_map.1 mem
  have undivided : ∀ c ∈ piece, c ≠ '/' ∧ c ≠ '\\' := fun c hc =>
    isSeparator_eq_false.1 (Text.mem_splitOnP hpiece c hc).1
  simp only [bne_iff_ne, Bool.and_eq_true] at counts
  refine ⟨counts.1, counts.2, climbs, fun mem => ?_, fun mem => ?_⟩
  · rw [String.toList_ofList] at mem
    exact (undivided _ mem).1 rfl
  · rw [String.toList_ofList] at mem
    exact (undivided _ mem).2 rfl

/-! ## Paths put together -/

/-- **Paths put together** have the parts of both. -/
theorem parts_append_slash (s t : String) : parts (s ++ "/" ++ t) = parts s ++ parts t := by
  have joined : (s ++ "/" ++ t).toList = s.toList ++ '/' :: t.toList := by
    rw [String.toList_append, String.toList_append, List.append_assoc]
    rfl
  unfold parts
  rw [joined, List.splitOnP_append_cons _ _ (by rfl), List.map_append, List.filter_append]

theorem parts_of_isStep (h : IsStep s) : parts s = [s] := by
  unfold parts
  rw [List.splitOnP_eq_singleton h.undivided]
  simp [h.ne_empty, h.ne_dot]

theorem parts_intercalate (h : ∀ s ∈ steps, IsStep s) : parts ("/".intercalate steps) = steps := by
  induction steps with
  | nil => rfl
  | cons s rest ih =>
    obtain ⟨first, others⟩ := List.forall_mem_cons.1 h
    by_cases last : rest = []
    · rw [last, String.intercalate_singleton, parts_of_isStep first]
    · rw [String.intercalate_cons_of_ne_nil last, parts_append_slash, parts_of_isStep first,
        ih others]
      rfl

theorem pieces_intercalate (some : steps ≠ []) (h : ∀ s ∈ steps, IsStep s) :
    Text.pieces '/' ("/".intercalate steps) = steps := by
  have slash : "/".toList = ['/'] := rfl
  have undivided : ∀ piece ∈ steps.map String.toList, '/' ∉ piece := by
    intro piece mem
    obtain ⟨s, hs, rfl⟩ := List.mem_map.1 mem
    exact (h s hs).slash
  unfold Text.pieces
  rw [String.toList_intercalate, slash,
    List.splitOn_intercalate '/' undivided (by simpa using some)]
  simp

/-- A character that is neither a separator nor a dot leaves a part of the path. -/
theorem parts_ne_nil {c : Char} (mem : c ∈ path.toList) (letter : isSeparator c = false ∧ c ≠ '.') :
    parts path ≠ [] := by
  obtain ⟨piece, hpiece, hc⟩ := Text.exists_mem_splitOnP mem letter.1
  refine List.ne_nil_of_mem (List.mem_filter.2 ⟨List.mem_map.2 ⟨piece, hpiece, rfl⟩, ?_⟩)
  rw [Bool.and_eq_true, bne_iff_ne, bne_iff_ne]
  constructor
  · intro empty
    rw [← String.toList_inj, String.toList_ofList] at empty
    subst empty
    cases hc
  · intro dot
    rw [← String.toList_inj, String.toList_ofList] at dot
    subst dot
    exact letter.2 (List.mem_singleton.1 hc)

/-! ## Where paths lead -/

/-- The path leads nowhere. -/
structure Invalid (path : String) : Prop where
  components : components path = .error (.invalidPath path)
  normalize : normalize path = .error (.invalidPath path)
  resolve : ∀ root, resolve root path = .error (.invalidPath path)

/-- The path leads down the steps, and so does its normal form. -/
structure Leads (path : String) (steps : List String) : Prop where
  ne_nil : steps ≠ []
  isStep : ∀ s ∈ steps, IsStep s
  components : components path = .ok steps
  normalize : normalize path = .ok ("/".intercalate steps)
  /-- The normal form is its own. -/
  stable : Asset.normalize ("/".intercalate steps) = .ok ("/".intercalate steps)
  /-- The normal form comes apart into the steps. -/
  pieces : Text.pieces '/' ("/".intercalate steps) = steps
  resolve : ∀ root, resolve root path = .ok (steps.foldl join root)
  /-- Taking the steps is going to the normal form at once. -/
  below : ∀ root, steps.foldl join root = join root ("/".intercalate steps)

theorem join_join (h : IsStep s) (root rest : String) :
    join (join root s) rest = join root (s ++ "/" ++ rest) := by
  -- whatever comes before it, a step is not empty and does not end in a slash
  have closed : ∀ base : String,
      ¬ (base ++ s = "" ∨ (base ++ s).toList.getLast? = some '/') := by
    intro base
    rintro (empty | slash)
    · exact h.ne_empty (String.append_eq_empty_iff.1 empty).2
    · rw [String.toList_append, List.getLast?_append] at slash
      cases last : s.toList.getLast? with
      | none => exact h.ne_empty (String.toList_eq_nil_iff.1 (List.getLast?_eq_none_iff.1 last))
      | some c =>
        rw [last, Option.some_or, Option.some.injEq] at slash
        subst slash
        exact h.slash (List.mem_of_getLast? last)
  unfold join
  by_cases glued : root = "" ∨ root.toList.getLast? = some '/'
  · rw [if_pos glued, if_pos glued, if_neg (closed root)]
    simp only [String.append_assoc]
  · rw [if_neg glued, if_neg glued, if_neg (closed (root ++ "/"))]
    simp only [String.append_assoc]

theorem foldl_join (some : steps ≠ []) (h : ∀ s ∈ steps, IsStep s) (root : String) :
    steps.foldl join root = join root ("/".intercalate steps) := by
  induction steps generalizing root with
  | nil => exact absurd rfl some
  | cons s rest ih =>
    obtain ⟨first, others⟩ := List.forall_mem_cons.1 h
    by_cases last : rest = []
    · rw [last, String.intercalate_singleton]
      rfl
    · rw [List.foldl_cons, ih last others, join_join first,
        String.intercalate_cons_of_ne_nil last]

theorem components_of_steps (h : parts path = steps) (some : steps ≠ []) (up : ".." ∉ steps) :
    components path = .ok steps := by
  unfold components
  rw [h]
  simp [some, up]

theorem components_of_invalid (h : parts path = [] ∨ ".." ∈ parts path) :
    components path = .error (.invalidPath path) := by
  unfold components
  rcases h with nothing | up
  · simp [nothing]
  · simp [up]

theorem leads_of_parts (h : parts path = steps) (some : steps ≠ []) (up : ".." ∉ steps) :
    Leads path steps := by
  have each : ∀ s ∈ steps, IsStep s := by
    subst h
    exact fun s mem => isStep_of_mem_parts up mem
  have here := components_of_steps h some up
  have again := components_of_steps (parts_intercalate each) some up
  have normal : Asset.normalize path = .ok ("/".intercalate steps) := by
    rw [Asset.normalize, here]
    rfl
  have pieces := pieces_intercalate some each
  refine ⟨some, each, here, normal, ?_, pieces, fun root => ?_, foldl_join some each⟩
  · rw [Asset.normalize, again]
    rfl
  · -- the normal form is taken apart again
    rw [Asset.resolve, normal]
    exact congrArg (fun ps => Except.ok (ps.foldl join root)) pieces

/-- **Where a path leads.** -/
theorem leads_cases (path : String) :
    (parts path = [] ∨ ".." ∈ parts path) ∧ Invalid path ∨ Leads path (parts path) := by
  by_cases nowhere : parts path = [] ∨ ".." ∈ parts path
  · have invalid := components_of_invalid nowhere
    have normal : Asset.normalize path = .error (.invalidPath path) := by
      rw [Asset.normalize, invalid]
      rfl
    refine .inl ⟨nowhere, invalid, normal, fun root => ?_⟩
    rw [Asset.resolve, normal]
    rfl
  · rw [not_or] at nowhere
    exact .inr (leads_of_parts rfl nowhere.1 nowhere.2)

/-! ## The paths of a character -/

def characterFolder : String := "humanoid"

/-- The path is invalid or leads below the folder of the characters. -/
def Confined (path : String) : Prop :=
  Invalid path ∨ ∃ steps, steps ≠ [] ∧ Leads path (characterFolder :: steps)

theorem confined_of_parts (h : parts path = characterFolder :: steps) (some : steps ≠ []) :
    Confined path := by
  rcases leads_cases path with ⟨-, invalid⟩ | leads
  · exact .inl invalid
  · rw [h] at leads
    exact .inr ⟨steps, some, leads⟩

/-- **What stands behind the folder of the characters cannot lead out of it**, and a letter in the
ending keeps it from leading to the folder itself. -/
theorem confined_append {c : Char} (rest ending : String) (mem : c ∈ ending.toList)
    (letter : isSeparator c = false ∧ c ≠ '.') : Confined ("/humanoid/" ++ rest ++ ending) := by
  have folder : parts "/humanoid" = [characterFolder] := by decide
  have path : "/humanoid/" ++ rest ++ ending = "/humanoid" ++ "/" ++ (rest ++ ending) :=
    String.append_assoc
  have inside : c ∈ (rest ++ ending).toList := by
    rw [String.toList_append]
    exact List.mem_append_right _ mem
  refine confined_of_parts ?_ (parts_ne_nil inside letter)
  rw [path, parts_append_slash, folder]
  rfl

theorem confined_picture (rest : String) : Confined ("/humanoid/" ++ rest ++ ".png") :=
  confined_append (c := 'p') rest ".png" (by decide) (by decide)

theorem confined_frames (rest : String) : Confined ("/humanoid/" ++ rest ++ ".frames") :=
  confined_append (c := 'f') rest ".frames" (by decide) (by decide)

/-- **The paths of a character**, whatever its identity says. -/
theorem confined_sheetFiles {i : Identity} {slot : Slot} {files : SheetFiles}
    (h : i.sheetFiles? slot = some files) : Confined files.picture ∧ Confined files.frames := by
  have shared : ∀ name, Confined ("/humanoid/" ++ i.species ++ "/" ++ name ++ ".png") ∧
      Confined ("/humanoid/" ++ name ++ ".frames") := by
    intro name
    have picture := confined_picture (i.species ++ "/" ++ name)
    simp only [← String.append_assoc] at picture
    exact ⟨picture, confined_frames name⟩
  have chosen : ∀ style : Style, style.sheetFiles? i.species = some files →
      Confined files.picture ∧ Confined files.frames := by
    intro style hstyle
    have picture := confined_picture (i.species ++ "/" ++ style.group ++ "/" ++ style.kind)
    have frames := confined_append (c := 'f') (i.species ++ "/" ++ style.group) "/default.frames"
      (by decide) (by decide)
    simp only [← String.append_assoc] at picture frames
    unfold Style.sheetFiles? at hstyle
    obtain ⟨-, heq⟩ := Option.ite_none_left_eq_some.1 hstyle
    cases heq
    exact ⟨picture, frames⟩
  cases slot with
  | body => cases h; exact shared (i.gender ++ "body")
  | head => cases h; exact shared (i.gender ++ "head")
  | frontArm => cases h; exact shared "frontarm"
  | backArm => cases h; exact shared "backarm"
  | hair => exact chosen i.hair h
  | facialHair => exact chosen i.facialHair h
  | mask => exact chosen i.facialMask h

end Asset

/-! ## What a loader asks for -/

namespace Loader

variable {l : Loader} {source : AssetSource (List UInt8)}

def withSource (l : Loader) (source : AssetSource (List UInt8)) : Loader :=
  { l with source }

theorem loadSheet_congr {files : SheetFiles}
    (picture : source.read files.picture = l.source.read files.picture)
    (frames : source.read files.frames = l.source.read files.frames) :
    (l.withSource source).loadSheet files = l.loadSheet files := by
  have first : (l.withSource source).loadPicture files.picture = l.loadPicture files.picture := by
    unfold loadPicture readAsset withSource
    rw [picture]
  have second : (l.withSource source).loadFrames files.frames = l.loadFrames files.frames := by
    unfold loadFrames readAsset withSource
    rw [frames]
  unfold loadSheet
  rw [first, second]

theorem loadSheets_congr {i : Identity}
    (same : ∀ path, Asset.Confined path → source.read path = l.source.read path)
    (slots : List Slot) : (l.withSource source).loadSheets i slots = l.loadSheets i slots := by
  induction slots with
  | nil => rfl
  | cons slot rest ih =>
    unfold loadSheets
    cases h : i.sheetFiles? slot with
    | none => exact ih
    | some files =>
      obtain ⟨picture, frames⟩ := Asset.confined_sheetFiles h
      simp only [loadSheet_congr (same _ picture) (same _ frames), ih]

/-- **A loader asks for paths of characters only**: sources that agree on these give the same
characters and the same errors. -/
theorem loadCharacter_congr
    (same : ∀ path, Asset.Confined path → source.read path = l.source.read path) (i : Identity) :
    (l.withSource source).loadCharacter i = l.loadCharacter i := by
  unfold loadCharacter
  rw [loadSheets_congr same]

end Loader

/-! ## Down a directory -/

namespace AssetTree

variable {α : Type} {t : AssetTree α} {name : String}

/-- The directory with nothing in it but what goes by a name. -/
def only (t : AssetTree α) (name : String) : AssetTree α :=
  ⟨t.files.filter fun file => file.1.head? = some name⟩

/-- A place below the name is the same with and without the rest of the directory. -/
theorem at?_only (rest : List String) :
    (t.only name).at? (name :: rest) = t.at? (name :: rest) := by
  -- whatever asks only for what goes by the name does not see the difference
  have narrower : ∀ p : List String → Bool, (∀ steps, p steps → steps.head? = some name) →
      ∀ file : List String × α, (decide (file.1.head? = some name) && p file.1) = p file.1 := by
    intro p implied file
    cases hp : p file.1 with
    | false => rw [Bool.and_false]
    | true => simp [implied _ hp]
  have found : (t.only name).files.find? (·.1 == name :: rest) =
      t.files.find? (·.1 == name :: rest) := by
    unfold only
    rw [List.find?_filter]
    congr 1
    funext file
    simp only [Bool.decide_and, Bool.decide_eq_true]
    refine narrower (· == name :: rest) (fun steps same => ?_) file
    rw [eq_of_beq same]
    rfl
  have passed : (t.only name).files.any ((name :: rest).isPrefixOf ·.1) =
      t.files.any ((name :: rest).isPrefixOf ·.1) := by
    unfold only
    rw [List.any_filter]
    congr 1
    funext file
    refine narrower (name :: rest).isPrefixOf (fun steps before => ?_) file
    obtain ⟨more, rfl⟩ := List.isPrefixOf_iff_prefix.1 before
    rfl
  unfold at?
  rw [found, passed]

theorem walk_only (walked steps : List String) :
    (t.only name).walk (name :: walked) steps = t.walk (name :: walked) steps := by
  induction steps generalizing walked with
  | nil => exact at?_only walked
  | cons step rest ih =>
    unfold walk
    simp only [List.cons_append, at?_only, ih]

/-- Walking down a directory looks at nothing beside the first step. -/
theorem entry_only (steps : List String) :
    (t.only name).entry (name :: steps) = t.entry (name :: steps) := by
  have first : (t.only name).walk [] (name :: steps) = t.walk [] (name :: steps) := by
    unfold walk
    simp only [List.nil_append, at?_only, walk_only]
  unfold entry
  rw [first]

theorem read_only {path : String} (h : Asset.Confined path) :
    (t.only Asset.characterFolder).read path = t.read path := by
  rcases h with invalid | ⟨steps, -, leads⟩
  · unfold read
    rw [invalid.components]
    rfl
  · unfold read
    rw [leads.components]
    simp only [bind, Except.bind, entry_only]

end AssetTree

namespace Asset

/-- **Paths do not leave the directory, and those of characters not the folder of characters**,
whatever is in an identity. -/
theorem paths_confined :
    (∀ path, (parts path = [] ∨ ".." ∈ parts path) ∧ Invalid path ∨ Leads path (parts path)) ∧
    (∀ (i : Identity) (slot : Slot) (files : SheetFiles), i.sheetFiles? slot = some files →
      ∀ path ∈ [files.picture, files.frames],
        Invalid path ∨ ∃ steps, steps ≠ [] ∧ Leads path ("humanoid" :: steps)) ∧
    ∀ (l : Loader) (t : AssetTree (List UInt8)) (i : Identity),
      (l.withSource (t.only "humanoid").toSource).loadCharacter i =
        (l.withSource t.toSource).loadCharacter i := by
  refine ⟨leads_cases, ?_, ?_⟩
  · intro i slot files h path mem
    obtain ⟨picture, frames⟩ := confined_sheetFiles h
    rcases List.mem_cons.1 mem with rfl | mem
    · exact picture
    · rw [List.mem_singleton.1 mem]
      exact frames
  · intro l t i
    have same : ∀ path, Confined path →
        (t.only "humanoid").toSource.read path = (l.withSource t.toSource).source.read path :=
      fun path confined => AssetTree.read_only confined
    exact Loader.loadCharacter_congr same i

/-- An identity with separators and dots in its texts. -/
def smuggler : Identity where
  species := "hum/.\\an"
  gender := "../../fe"
  hair := ⟨"styles/", "1\\2", ""⟩

theorem paths_confined_smuggler :
    ∃ hair body, smuggler.sheetFiles? .hair = some hair ∧ smuggler.sheetFiles? .body = some body ∧
      normalize hair.picture = .ok "humanoid/hum/an/styles/1/2.png" ∧
      (∃ steps, steps ≠ [] ∧ Leads hair.picture ("humanoid" :: steps)) ∧
      Invalid body.picture := by
  have chosen : smuggler.sheetFiles? .hair = some
      ⟨"/humanoid/hum/.\\an/styles//1\\2.png", "/humanoid/hum/.\\an/styles//default.frames"⟩ := by
    decide +kernel
  have normal : normalize "/humanoid/hum/.\\an/styles//1\\2.png" =
      .ok "humanoid/hum/an/styles/1/2.png" := by
    rfl
  have climbs : normalize "/humanoid/hum/.\\an/../../febody.png" =
      .error (.invalidPath "/humanoid/hum/.\\an/../../febody.png") := by
    rfl
  refine ⟨_, _, chosen, rfl, normal, ?_, ?_⟩
  · rcases paths_confined.2.1 smuggler .hair _ chosen _ List.mem_cons_self with invalid | leads
    · cases normal.symm.trans invalid.normalize
    · exact leads
  · rcases paths_confined.2.1 smuggler .body _ rfl _ List.mem_cons_self with
      invalid | ⟨steps, -, leads⟩
    · exact invalid
    · cases climbs.symm.trans leads.normalize

end Asset

end Paperdoll
