import Mathlib.Data.List.DropRight
import Paperdoll.Directive

/-!
# Canonical texts: directives written and read again

The reader of directives drops empty segments and blanks, and knows a short form; the writer knows
none of this. Reading what was written gives the directives back only if nothing in them is taken
for something else.

**Theorem (`parseAll_textOf_iff`).** A list of directives is given back by its text exactly if each
of them is writable: the command is not empty, has no blanks around it and no delimiter in it, and
no argument contains one of the delimiters that end an argument. Whatever has been read is
writable, so the canonical text of a text says the same, is its own canonical text, and is shared
by the texts that say the same and no others.

One direction writes and reads: the text of a writable list falls apart at the question marks into
the segments of its directives (`segments_textOf`), and each of these at the semicolons into command
and arguments. The other direction reads: a piece contains no separator, what stands before the
first equals sign contains none, and a trimmed command is trimmed (`writable_of_parseSegment`).
-/

namespace Paperdoll

namespace Text

/-! ## Blanks at the ends -/

/-- The text neither begins nor ends with a blank. -/
structure Trimmed (s : String) : Prop where
  head : ∀ c ∈ s.toList.head?, ¬ isBlank c
  last : ∀ c ∈ s.toList.getLast?, ¬ isBlank c

theorem trimChars_eq (cs : List Char) :
    trimChars cs = (cs.dropWhile isBlank).rdropWhile isBlank := rfl

theorem trim_of_trimmed {s : String} (h : Trimmed s) : trim s = s := by
  have front : s.toList.dropWhile isBlank = s.toList := by
    cases hs : s.toList with
    | nil => rfl
    | cons c cs => exact List.dropWhile_cons_of_neg (h.head c (by rw [hs]; rfl))
  have back : s.toList.rdropWhile isBlank = s.toList :=
    List.rdropWhile_eq_self_iff.2 fun hne =>
      h.last _ (List.getLast?_eq_some_getLast hne)
  rw [← String.toList_inj, toList_trim, trimChars_eq, front, back]

theorem trimmed_trim (s : String) : Trimmed (trim s) := by
  constructor
  · intro c hc
    rw [toList_trim, trimChars_eq] at hc
    obtain ⟨dropped, heq⟩ := List.rdropWhile_prefix isBlank (s.toList.dropWhile isBlank)
    have first := List.head?_dropWhile_not isBlank s.toList
    rw [← heq, List.head?_append, Option.mem_def.1 hc] at first
    simpa using first
  · intro c hc
    rw [toList_trim, trimChars_eq] at hc
    obtain ⟨hne, rfl⟩ := List.mem_getLast?_eq_getLast hc
    exact List.rdropWhile_last_not isBlank _ hne

theorem mem_of_mem_trim {s : String} {c : Char} (h : c ∈ (trim s).toList) : c ∈ s.toList := by
  rw [toList_trim, trimChars_eq] at h
  exact (List.dropWhile_sublist isBlank).mem ((List.rdropWhile_prefix isBlank _).mem h)

end Text

namespace Directive

variable {d : Directive} {ds : List Directive}

/-- Nothing in the directive is taken for something else when its text is read. -/
structure Writable (d : Directive) : Prop where
  command_ne : d.command ≠ ""
  trimmed : Text.Trimmed d.command
  command : '?' ∉ d.command.toList ∧ ';' ∉ d.command.toList ∧ '=' ∉ d.command.toList
  args : ∀ arg ∈ d.args, '?' ∉ arg.toList ∧ ';' ∉ arg.toList

/-! ## Written and read again -/

def segmentOf (d : Directive) : List Char :=
  d.command.toList ++ (d.args.map String.toList).flatMap (';' :: ·)

theorem toList_text (d : Directive) : d.text.toList = '?' :: d.segmentOf := by
  have args : (String.join (d.args.map (";" ++ ·))).toList =
      (d.args.map String.toList).flatMap (';' :: ·) := by
    rw [String.toList_join, List.flatMap_map, List.flatMap_map]
    exact List.flatMap_congr fun arg _ => String.toList_append
  rw [text, String.toList_append, String.toList_append, args]
  rfl

theorem toList_textOf (ds : List Directive) :
    (textOf ds).toList = (ds.map segmentOf).flatMap ('?' :: ·) := by
  rw [textOf, String.toList_join, List.flatMap_map, List.flatMap_map]
  exact List.flatMap_congr fun d _ => toList_text d

theorem Writable.not_mem_segmentOf (h : d.Writable) : '?' ∉ d.segmentOf := by
  intro mem
  rcases List.mem_append.1 mem with mem | mem
  · exact h.command.1 mem
  · obtain ⟨cs, hcs, mem⟩ := List.mem_flatMap.1 mem
    obtain ⟨arg, harg, rfl⟩ := List.mem_map.1 hcs
    rcases List.mem_cons.1 mem with heq | mem
    · exact absurd heq (by decide)
    · exact (h.args arg harg).1 mem

theorem Writable.segmentOf_ne_nil (h : d.Writable) : d.segmentOf ≠ [] := by
  intro hnil
  have empty : d.command.toList = [] := (List.append_eq_nil_iff.1 hnil).1
  exact h.command_ne (String.toList_inj.1 empty)

theorem Writable.pieces_segmentOf (h : d.Writable) :
    Text.pieces ';' (String.ofList d.segmentOf) = d.command :: d.args := by
  have args : ∀ cs ∈ d.args.map String.toList, ';' ∉ cs := by
    intro cs hcs
    obtain ⟨arg, harg, rfl⟩ := List.mem_map.1 hcs
    exact (h.args arg harg).2
  rw [Text.pieces, String.toList_ofList, segmentOf,
    Text.splitOn_append_flatMap h.command.2.1 args, List.map_cons,
    String.ofList_toList, List.map_map]
  congr 1
  simp

theorem Writable.parseSegment_segmentOf (h : d.Writable) (index : Nat) :
    parseSegment index (String.ofList d.segmentOf) = .ok d := by
  have whole : Text.cutOnce '=' d.command = none :=
    Text.cutOnce_eq_none.2 h.command.2.2
  simp only [parseSegment, h.pieces_segmentOf, whole, Text.trim_of_trimmed h.trimmed]
  rw [if_neg]
  rw [String.isEmpty_iff]
  exact h.command_ne

theorem segments_textOf (h : ∀ d ∈ ds, d.Writable) :
    segments (textOf ds) = ds.map fun d => String.ofList d.segmentOf := by
  have fresh : ∀ cs ∈ ds.map segmentOf, '?' ∉ cs := by
    intro cs hcs
    obtain ⟨d, hd, rfl⟩ := List.mem_map.1 hcs
    exact (h d hd).not_mem_segmentOf
  -- what stands before the first question mark is empty, and the only piece that is
  have split : Text.pieces '?' (textOf ds) = "" :: ds.map fun d => String.ofList d.segmentOf := by
    have pieces := Text.splitOn_append_flatMap (List.not_mem_nil (a := '?')) fresh
    rw [List.nil_append] at pieces
    rw [Text.pieces, toList_textOf, pieces, List.map_cons, List.map_map]
    rfl
  rw [segments, split, List.filter_cons_of_neg (by decide), List.filter_eq_self]
  intro segment mem
  obtain ⟨d, hd, rfl⟩ := List.mem_map.1 mem
  have full : String.ofList d.segmentOf ≠ "" := by
    rw [Ne, ← String.toList_inj, String.toList_ofList]
    exact (h d hd).segmentOf_ne_nil
  simpa [String.isEmpty_iff] using full

theorem parseSegments_segmentOf (h : ∀ d ∈ ds, d.Writable) (index : Nat) :
    parseSegments index (ds.map fun d => String.ofList d.segmentOf) = .ok ds := by
  induction ds generalizing index with
  | nil => rfl
  | cons d ds ih =>
    have first := (h d List.mem_cons_self).parseSegment_segmentOf index
    have others := ih (fun e he => h e (List.mem_cons_of_mem d he)) (index + 1)
    rw [List.map_cons, parseSegments, first, others]
    rfl

theorem parseAll_textOf (h : ∀ d ∈ ds, d.Writable) : parseAll (textOf ds) = .ok ds := by
  rw [parseAll, segments_textOf h, parseSegments_segmentOf h]

/-! ## What has been read -/

/-- The last step of the reader, whichever form the segment has. -/
theorem writable_of_trim {front : String} {args : List String} {e : Error}
    (hfront : '?' ∉ front.toList ∧ ';' ∉ front.toList ∧ '=' ∉ front.toList)
    (hargs : ∀ arg ∈ args, '?' ∉ arg.toList ∧ ';' ∉ arg.toList)
    (h : (if (Text.trim front).isEmpty then .error e else .ok ⟨Text.trim front, args⟩) =
      Except.ok (ε := Error) d) : d.Writable := by
  split at h
  next => cases h
  next full =>
    cases h
    obtain ⟨noMark, noSemicolon, noEquals⟩ := hfront
    refine ⟨fun empty => full ?_, Text.trimmed_trim front, ⟨?_, ?_, ?_⟩, hargs⟩
    · rw [String.isEmpty_iff]
      exact empty
    · exact fun mem => noMark (Text.mem_of_mem_trim mem)
    · exact fun mem => noSemicolon (Text.mem_of_mem_trim mem)
    · exact fun mem => noEquals (Text.mem_of_mem_trim mem)

theorem writable_of_parseSegment {index : Nat} {segment : String} (hseg : '?' ∉ segment.toList)
    (h : parseSegment index segment = .ok d) : d.Writable := by
  have clean : ∀ piece ∈ Text.pieces ';' segment, '?' ∉ piece.toList ∧ ';' ∉ piece.toList := by
    intro piece hpiece
    obtain ⟨fresh, inside⟩ := Text.mem_pieces hpiece
    exact ⟨fun mem => hseg (inside '?' mem), fresh⟩
  unfold parseSegment at h
  cases hpieces : Text.pieces ';' segment with
  | nil =>
    rw [hpieces] at h
    cases h
  | cons head rest =>
    simp only [hpieces] at h clean
    obtain ⟨hhead, hrest⟩ := List.forall_mem_cons.1 clean
    cases hcut : Text.cutOnce '=' head with
    | none =>
      rw [hcut] at h
      exact writable_of_trim ⟨hhead.1, hhead.2, Text.cutOnce_eq_none.1 hcut⟩ hrest h
    | some cut =>
      -- the head is the command, the equals sign and the first argument
      obtain ⟨front, arg⟩ := cut
      rw [hcut] at h
      obtain ⟨heq, noEquals⟩ := Text.toList_of_cutOnce hcut
      simp only [heq, List.mem_append, List.mem_cons, not_or] at hhead
      obtain ⟨⟨frontMark, -, argMark⟩, frontSemicolon, -, argSemicolon⟩ := hhead
      exact writable_of_trim ⟨frontMark, frontSemicolon, noEquals⟩
        (List.forall_mem_cons.2 ⟨⟨argMark, argSemicolon⟩, hrest⟩) h

theorem parseSegments_cons_eq_ok {index : Nat} {segment : String} {rest : List String}
    (h : parseSegments index (segment :: rest) = .ok ds) :
    ∃ first others, parseSegment index segment = .ok first ∧
      parseSegments (index + 1) rest = .ok others ∧ ds = first :: others := by
  rw [parseSegments] at h
  obtain ⟨first, hfirst, h⟩ := Error.bind_eq_ok.1 h
  obtain ⟨others, hothers, h⟩ := Error.bind_eq_ok.1 h
  cases h
  exact ⟨first, others, hfirst, hothers, rfl⟩

theorem writable_of_parseSegments {index : Nat} {segments : List String}
    (hsegs : ∀ segment ∈ segments, '?' ∉ segment.toList)
    (h : parseSegments index segments = .ok ds) : ∀ d ∈ ds, d.Writable := by
  induction segments generalizing index ds with
  | nil =>
    cases h
    exact List.forall_mem_nil _
  | cons segment rest ih =>
    obtain ⟨first, others, hfirst, hothers, rfl⟩ := parseSegments_cons_eq_ok h
    obtain ⟨hsegment, hrest⟩ := List.forall_mem_cons.1 hsegs
    exact List.forall_mem_cons.2 ⟨writable_of_parseSegment hsegment hfirst, ih hrest hothers⟩

theorem writable_of_parseAll {t : String} (h : parseAll t = .ok ds) : ∀ d ∈ ds, d.Writable := by
  refine writable_of_parseSegments (fun segment mem => ?_) h
  exact (Text.mem_pieces (List.mem_of_mem_filter mem)).1

/-! ## Canonical texts -/

/-- **What is written is read back exactly if it is writable, and what has been read is.** So the
canonical text stands for its directives: reading it changes nothing, writing again changes
nothing, and different directives have different canonical texts. -/
theorem parseAll_textOf_iff (ds : List Directive) :
    (parseAll (textOf ds) = .ok ds ↔ ∀ d ∈ ds, d.Writable) ∧
    (∀ t, parseAll t = .ok ds →
      (∀ d ∈ ds, d.Writable) ∧ parseAll (textOf ds) = .ok ds ∧
        (parseAll (textOf ds)).map textOf = .ok (textOf ds)) ∧
    (∀ t t' ds', parseAll t = .ok ds → parseAll t' = .ok ds' →
      (textOf ds = textOf ds' ↔ ds = ds')) := by
  have again : ∀ {t ds}, parseAll t = .ok ds → parseAll (textOf ds) = .ok ds := fun h =>
    parseAll_textOf (writable_of_parseAll h)
  refine ⟨⟨writable_of_parseAll, parseAll_textOf⟩, fun t h => ?_,
    fun t t' ds' h h' => ⟨fun same => ?_, congrArg textOf⟩⟩
  · exact ⟨writable_of_parseAll h, again h, by rw [again h]; rfl⟩
  · have read := again h
    rw [same, again h'] at read
    exact (Except.ok.inj read).symm

/-- The long and the short form of one text, with what the reader drops around them. -/
theorem parseAll_textOf_iff_forms :
    let long := "?replace;aabbcc=112233;?flipx"
    let short := "?? replace =aabbcc=112233;?flipx?"
    let ds := [⟨"replace", ["aabbcc=112233", ""]⟩, ⟨"flipx", []⟩]
    parseAll long = .ok ds ∧ parseAll short = .ok ds ∧ textOf ds = long ∧
      parseAll (textOf ds) = .ok ds ∧ ∀ d ∈ ds, d.Writable := by
  intro long short ds
  have hlong : parseAll long = .ok ds := by decide +kernel
  have hshort : parseAll short = .ok ds := by decide +kernel
  have htext : textOf ds = long := by decide +kernel
  obtain ⟨-, canonical, -⟩ := parseAll_textOf_iff ds
  obtain ⟨writable, back, -⟩ := canonical short hshort
  exact ⟨hlong, hshort, htext, back, writable⟩

end Directive

end Paperdoll
