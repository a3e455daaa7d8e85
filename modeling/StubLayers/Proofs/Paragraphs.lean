import StubLayers.Proofs.Tags
import StubLayers.Report

/-!
# Reading reports back

The text about duplicates is made by two joins: lines are joined by newlines to blocks, and blocks
and the hint behind them by pairs of newlines.  Names, locations and the shim directory stand in it
as they are, with colons, stars and the words of the text itself.  This file finds lines and blocks
again, by the newlines alone.

* `joined_spaced`: two newlines between blocks are an empty line between them, so that both joins
  are one join of lines.
* `linesOf`, `paragraphsOf`: a text split at its newlines, and the lines split at the empty ones.
* `paragraphsOf_joined`: this undoes both joins, if no line is empty or holds a newline.
* `Report.paragraphsOf_text` says so of reports, and `Report.text_unambiguous` what follows for two
  of them.
-/

namespace StubLayers

/-! ### Lines and paragraphs -/

/-- The lines of a text; a newline ends each of them. -/
def linesOf (text : String) : List String :=
  ((text.toList.splitOn '\n').map String.ofList).dropLast

/-- The lines of a text, from one empty line to the next. -/
def paragraphsOf (text : String) : List (List String) := (linesOf text).splitOn ""

theorem linesOf_joined {lines : List String} (hne : lines ≠ [])
    (hlines : ∀ line ∈ lines, '\n' ∉ line.toList) :
    linesOf ("\n".intercalate lines ++ "\n") = lines := by
  -- the newline at the end is one more between lines, with an empty line behind it
  have hend : "\n".intercalate lines ++ "\n" = "\n".intercalate (lines ++ [""]) := by
    rw [String.intercalate_append_of_ne_nil hne (List.cons_ne_nil _ _),
      String.intercalate_singleton, String.append_empty]
  have hall : ∀ line ∈ lines ++ [""], '\n' ∉ line.toList := by
    rw [List.forall_mem_append]
    exact ⟨hlines, by simp⟩
  rw [linesOf, hend, splitOn_joined_by rfl (by simp) hall, List.map_map,
    String.ofList_comp_toList, List.map_id, List.dropLast_concat]

section

variable {ps : List (List String)}

theorem mem_spaced {line : String} (h : line ∈ [""].intercalate ps) :
    line = "" ∨ ∃ p ∈ ps, line ∈ p := by
  induction ps with
  | nil => exact absurd h (by simp)
  | cons p rest ih =>
    cases rest with
    | nil => exact .inr ⟨p, List.mem_cons_self, by simpa using h⟩
    | cons q rest =>
      rw [List.intercalate_cons_cons, List.mem_append, List.mem_append, List.mem_singleton] at h
      rcases h with (hp | hempty) | hrest
      · exact .inr ⟨p, List.mem_cons_self, hp⟩
      · exact .inl hempty
      · exact (ih hrest).imp_right fun ⟨p', hp', hline⟩ => ⟨p', List.mem_cons_of_mem p hp', hline⟩

theorem spaced_ne_nil (hne : ps ≠ []) (hps : ∀ p ∈ ps, p ≠ []) : [""].intercalate ps ≠ [] := by
  obtain ⟨p, rest, rfl⟩ := List.exists_cons_of_ne_nil hne
  have hp : p ≠ [] := hps p List.mem_cons_self
  cases rest with
  | nil => rwa [List.intercalate_singleton]
  | cons q rest =>
    rw [List.intercalate_cons_cons, List.append_assoc]
    exact List.append_ne_nil_of_left_ne_nil hp _

/-- **Two newlines between paragraphs are an empty line between them.** -/
theorem joined_spaced (hps : ∀ p ∈ ps, p ≠ []) :
    "\n\n".intercalate (ps.map "\n".intercalate) = "\n".intercalate ([""].intercalate ps) := by
  induction ps with
  | nil => rfl
  | cons p rest ih =>
    rw [List.forall_mem_cons] at hps
    cases rest with
    | nil => rw [List.map_singleton, String.intercalate_singleton, List.intercalate_singleton]
    | cons q rest =>
      have hrest : [""].intercalate (q :: rest) ≠ [] :=
        spaced_ne_nil (List.cons_ne_nil q rest) hps.2
      have hnewlines : "\n".intercalate p ++ "\n\n" = "\n".intercalate p ++ "\n" ++ "\n" := by
        rw [String.append_assoc]
        rfl
      rw [List.map_cons, List.map_cons, String.intercalate_cons_cons, ← List.map_cons, ih hps.2,
        List.intercalate_cons_cons, List.append_assoc, List.singleton_append,
        String.intercalate_append_of_ne_nil hps.1 (List.cons_ne_nil _ _),
        String.intercalate_cons_of_ne_nil hrest, String.empty_append, hnewlines,
        String.append_assoc]

/-- **Paragraphs can be told apart** if no line of theirs is empty or holds a newline. -/
theorem paragraphsOf_joined (hne : ps ≠ []) (hps : ∀ p ∈ ps, p ≠ [])
    (hlines : ∀ p ∈ ps, ∀ line ∈ p, line ≠ "" ∧ '\n' ∉ line.toList) :
    paragraphsOf ("\n\n".intercalate (ps.map "\n".intercalate) ++ "\n") = ps := by
  have hspaced : ∀ line ∈ [""].intercalate ps, '\n' ∉ line.toList := by
    intro line hline
    rcases mem_spaced hline with rfl | ⟨p, hp, hline⟩
    · simp
    · exact (hlines p hp line hline).2
  rw [joined_spaced hps, paragraphsOf, linesOf_joined (spaced_ne_nil hne hps) hspaced]
  exact List.splitOn_intercalate "" (fun p hp hmem => (hlines p hp "" hmem).1 rfl) hne

end

/-! ### Reports -/

namespace Report

/-- What a report shows of the duplicates: their names, and the locations under each of them. -/
def shown (r : Report) (base url : Option String) : List (String × List String) :=
  r.duplicates.map fun entry => (entry.1, entry.2.map fun d => d.location.resolve base url)

/-- The shim directory, the names and the locations stand on one line each. -/
structure Unbroken (r : Report) (base url : Option String) : Prop where
  shimDir : '\n' ∉ r.shimDir.toList
  names : ∀ entry ∈ r.shown base url, '\n' ∉ entry.1.toList
  locations : ∀ entry ∈ r.shown base url, ∀ location ∈ entry.2, '\n' ∉ location.toList

/-- The lines about a name and its locations. -/
def entryLines (entry : String × List String) : List String :=
  ("Duplicated declaration for " ++ entry.1 ++ ":") :: entry.2.map (" * " ++ ·)

theorem entryLines_injective : Function.Injective entryLines := by
  rintro ⟨name, locations⟩ ⟨name', locations'⟩ h
  obtain ⟨hname, hlocations⟩ := List.cons.inj h
  have hsame : name = name' :=
    (String.append_right_inj _).mp ((String.append_left_inj _).mp hname)
  have hmap : locations = locations' :=
    List.map_injective_iff.mpr (fun _ _ hline => (String.append_right_inj _).mp hline) hlocations
  rw [hsame, hmap]

theorem hint_injective : Function.Injective hint := fun _ _ h =>
  (String.append_right_inj _).mp ((String.append_left_inj _).mp h)

variable {r r' : Report} {base url base' url' : Option String}

/-- The lines of a report, block by block. -/
def paragraphs (r : Report) (base url : Option String) : List (List String) :=
  (r.shown base url).map entryLines ++ [[hint r.shimDir]]

theorem joined_paragraphs (r : Report) (base url : Option String) :
    (r.paragraphs base url).map "\n".intercalate =
      r.duplicates.map (block base url) ++ [hint r.shimDir] := by
  have hblock : ∀ entry : String × List Declaration,
      "\n".intercalate (entryLines (entry.1, entry.2.map fun d => d.location.resolve base url)) =
        block base url entry := fun entry => by rw [entryLines, List.map_map]; rfl
  rw [paragraphs, shown, List.map_append, List.map_map, List.map_map, List.map_singleton,
    String.intercalate_singleton]
  exact congrArg (· ++ [hint r.shimDir]) (List.map_congr_left fun entry _ => hblock entry)

theorem text_of_duplicates (h : r.duplicates ≠ []) (base url : Option String) :
    r.text base url =
      "\n\n".intercalate (r.duplicates.map (block base url) ++ [hint r.shimDir]) ++ "\n" := by
  rw [text, if_neg (by simpa using h)]

theorem ne_nil_of_mem_paragraphs {p : List String} (hp : p ∈ r.paragraphs base url) : p ≠ [] := by
  rw [paragraphs, List.mem_append, List.mem_map, List.mem_singleton] at hp
  rcases hp with ⟨entry, -, rfl⟩ | rfl
  · exact List.cons_ne_nil _ _
  · exact List.cons_ne_nil _ _

theorem newline_notMem_append {front text back : String} (hfront : '\n' ∉ front.toList)
    (htext : '\n' ∉ text.toList) (hback : '\n' ∉ back.toList) :
    '\n' ∉ (front ++ text ++ back).toList := by
  rw [String.toList_append, String.toList_append, List.mem_append, List.mem_append]
  rintro ((h | h) | h)
  · exact hfront h
  · exact htext h
  · exact hback h

/-- No line is empty, since each has words of its own, and none is broken. -/
theorem Unbroken.line (h : r.Unbroken base url) {p : List String}
    (hp : p ∈ r.paragraphs base url) {line : String} (hline : line ∈ p) :
    line ≠ "" ∧ '\n' ∉ line.toList := by
  rw [paragraphs, List.mem_append, List.mem_map, List.mem_singleton] at hp
  rcases hp with ⟨entry, hentry, rfl⟩ | rfl
  · rcases List.mem_cons.mp hline with rfl | hline
    · exact ⟨by simp, newline_notMem_append (by simp) (h.names entry hentry) (by simp)⟩
    · obtain ⟨location, hlocation, rfl⟩ := List.mem_map.mp hline
      refine ⟨by simp, ?_⟩
      simpa using h.locations entry hentry location hlocation
  · rw [List.mem_singleton.mp hline]
    refine ⟨fun hempty => ?_, newline_notMem_append (by simp) h.shimDir (by simp)⟩
    exact absurd (String.append_eq_empty_iff.mp hempty).2 (by decide)

/-- **The blocks of a report are the paragraphs of its text.** -/
theorem paragraphsOf_text (hne : r.duplicates ≠ []) (h : r.Unbroken base url) :
    paragraphsOf (r.text base url) = r.paragraphs base url := by
  rw [text_of_duplicates hne, ← joined_paragraphs]
  exact paragraphsOf_joined (by simp [paragraphs]) (fun p hp => ne_nil_of_mem_paragraphs hp)
    fun p hp line hline => h.line hp hline

theorem paragraphs_inj :
    r.paragraphs base url = r'.paragraphs base' url' ↔
      r.shimDir = r'.shimDir ∧ r.shown base url = r'.shown base' url' := by
  constructor
  · intro h
    obtain ⟨hentries, hhint⟩ := List.append_inj' h rfl
    refine ⟨hint_injective ?_, List.map_injective_iff.mpr entryLines_injective hentries⟩
    exact List.singleton_inj.mp (List.singleton_inj.mp hhint)
  · rintro ⟨hdir, hshown⟩
    rw [paragraphs, paragraphs, hdir, hshown]

theorem text_eq_empty_iff (r : Report) (base url : Option String) :
    r.text base url = "" ↔ r.duplicates = [] := by
  constructor
  · intro h
    by_contra hne
    rw [text_of_duplicates hne] at h
    exact absurd (congrArg String.toList h) (by simp)
  · intro h
    rw [text, if_pos (by simp [h])]

theorem summary_of_duplicates (hne : r.duplicates ≠ []) (hchecked : r.shimsChecked = true) :
    r.summary = "Found duplicated declarations for " ++ toString r.duplicates.length ++
      (if r.duplicates.length = 1 then " symbol\n" else " symbols\n") := by
  rw [summary, if_neg (by simp [hchecked]), if_neg (by simpa using hne)]

/-- **The text about duplicates is unambiguous.**  It is empty exactly if there are none.  Two
reports with duplicates, on unbroken lines, have the same text exactly if they name the same shim
directory and show the same names in the same order, with the same locations under each.  The text
is made of blocks and the hint, which are its paragraphs if its lines are unbroken, and there are as
many blocks as the summary counts. -/
theorem text_unambiguous (r r' : Report) (base url base' url' : Option String) :
    (r.text base url = "" ↔ r.duplicates = []) ∧
    (r.duplicates ≠ [] → r'.duplicates ≠ [] → r.Unbroken base url → r'.Unbroken base' url' →
      (r.text base url = r'.text base' url' ↔
        r.shimDir = r'.shimDir ∧ r.shown base url = r'.shown base' url')) ∧
    (r.duplicates ≠ [] → r.shimsChecked = true →
      let blocks := r.duplicates.map (block base url)
      r.text base url = "\n\n".intercalate (blocks ++ [hint r.shimDir]) ++ "\n" ∧
      (r.Unbroken base url →
        (paragraphsOf (r.text base url)).map "\n".intercalate = blocks ++ [hint r.shimDir]) ∧
      r.summary = "Found duplicated declarations for " ++ toString blocks.length ++
        (if blocks.length = 1 then " symbol\n" else " symbols\n")) := by
  refine ⟨r.text_eq_empty_iff base url, fun hne hne' h h' => ?_, fun hne hchecked => ?_⟩
  · rw [← paragraphs_inj]
    constructor
    · intro htext
      rw [← paragraphsOf_text hne h, htext, paragraphsOf_text hne' h']
    · intro hparagraphs
      rw [text_of_duplicates hne, text_of_duplicates hne', ← joined_paragraphs, hparagraphs,
        joined_paragraphs]
  · refine ⟨text_of_duplicates hne base url, fun h => ?_, ?_⟩
    · rw [paragraphsOf_text hne h, joined_paragraphs]
    · rw [List.length_map]
      exact summary_of_duplicates hne hchecked

/-- Two names, one of them with words of the text in it and without locations.  The base stubs lie
in a directory of some name. -/
def ofBase (dir : String) : Report :=
  let declared (file : String) (line : Int) : Declaration :=
    ⟨.attr, "a#x", ⟨file, line, 0, line, 6⟩, [], []⟩
  ⟨"shims", true, [("a#x", [declared "shims/a.pyi" 1, declared (dir ++ "/a.pyi") 3]),
    ("b: * c", [])], []⟩

/-- Under whichever name they lie, the base stubs are shown by their address. -/
theorem text_unambiguous_published :
    (ofBase "base").Unbroken (some "base") (some "u:") ∧
    (ofBase "copy").Unbroken (some "copy") (some "u:") ∧
    (ofBase "base").text (some "base") (some "u:") =
      (ofBase "copy").text (some "copy") (some "u:") ∧
    (paragraphsOf ((ofBase "base").text (some "base") (some "u:"))).length = 3 ∧
    (ofBase "base").summary = "Found duplicated declarations for 2 symbols\n" := by
  have hshown : (ofBase "base").shown (some "base") (some "u:") =
      [("a#x", ["shims/a.pyi:1:0-1:6", "u:/a.pyi#L3"]), ("b: * c", [])] := by decide +kernel
  have hshown' : (ofBase "copy").shown (some "copy") (some "u:") =
      (ofBase "base").shown (some "base") (some "u:") := by decide +kernel
  have hnames : ∀ entry ∈ (ofBase "base").shown (some "base") (some "u:"),
      '\n' ∉ entry.1.toList ∧ ∀ location ∈ entry.2, '\n' ∉ location.toList := by
    rw [hshown]
    decide +kernel
  have hbase : (ofBase "base").Unbroken (some "base") (some "u:") :=
    ⟨by decide, fun entry h => (hnames entry h).1, fun entry h => (hnames entry h).2⟩
  have hcopy : (ofBase "copy").Unbroken (some "copy") (some "u:") :=
    ⟨by decide, fun entry h => (hnames entry (hshown' ▸ h)).1,
      fun entry h => (hnames entry (hshown' ▸ h)).2⟩
  obtain ⟨-, hsame, hcount⟩ := text_unambiguous (ofBase "base") (ofBase "copy")
    (some "base") (some "u:") (some "copy") (some "u:")
  have hne : ∀ dir, (ofBase dir).duplicates ≠ [] := fun dir => List.cons_ne_nil _ _
  obtain ⟨-, hblocks, hsummary⟩ := hcount (hne "base") rfl
  refine ⟨hbase, hcopy, ?_, ?_, hsummary⟩
  · exact (hsame (hne "base") (hne "copy") hbase hcopy).mpr ⟨rfl, hshown'.symm⟩
  · have hlength : (paragraphsOf ((ofBase "base").text (some "base") (some "u:"))).length =
        (ofBase "base").duplicates.length + 1 := by
      simpa using congrArg List.length (hblocks hbase)
    exact hlength

end Report

end StubLayers
