import StubLayers.Proofs.Numerals

/-!
# Lexemes

The texts that stand between gaps: words, numbers, operators, strings, and the line joins that are
kept beside them.  Written next to each other without gaps, lexemes may run together.

* `Lexeme`: what a single text between gaps looks like.
* `IsPlainString`: a string without escapes and interpolations.  It ends where it seems to end.
* `RunsOn t c`: the character `c`, written right behind `t`, may be taken for a part of it.
* `Lexeme.runsOn`: where one lexeme is the beginning of another, it runs on.
* `eq_or_glued_of_join_eq`: two lists of lexemes with the same joined text are the same, or two
  lexemes of one of them have run together in the other.
* `join_eq_iff_of_separate`: lexemes of which no two can run together are told from their text.
* `not_runsOn_of_mayRun`, `IsPlainString.not_runsOn`: lexemes that do not run on.
-/

namespace StubLayers

open Stub Text

/-! ### Lexemes -/

/-- A name or a keyword. -/
def IsWord (t : String) : Prop :=
  ∃ c cs, t.toList = c :: cs ∧ isNameStart c = true ∧ ∀ d ∈ cs, isNameContinue d = true

def quoteLetters : List Char := ['f', 'F', 't', 'T', 'r', 'R', 'b', 'B', 'u', 'U']

def quoteMarks : List Char := ['"', '\'', '`']

theorem IsWord.not_mem_quoteMarks {t : String} (h : IsWord t) {c : Char} (hc : c ∈ t.toList) :
    c ∉ quoteMarks := by
  have hname : ∀ c ∈ quoteMarks, isNameStart c = false ∧ isNameContinue c = false :=
    forall_mem_of_all (by decide)
  intro hmark
  obtain ⟨d, ds, hd, hstart, hds⟩ := h
  rw [hd] at hc
  rcases List.mem_cons.mp hc with rfl | hc
  · simp [(hname c hmark).1] at hstart
  · simpa [(hname c hmark).2] using hds c hc

/-- The text opens a string. -/
def IsQuoted (t : String) : Prop :=
  ∃ letters mark rest, t.toList = letters ++ mark :: rest ∧ (∀ c ∈ letters, c ∈ quoteLetters) ∧
    mark ∈ quoteMarks

theorem IsQuoted.append {t : String} (h : IsQuoted t) (more : String) : IsQuoted (t ++ more) := by
  obtain ⟨letters, mark, rest, ht, hletters, hmark⟩ := h
  exact ⟨letters, mark, rest ++ more.toList, by simp [String.toList_append, ht], hletters, hmark⟩

/-- The letters of strings that interpolate nothing. -/
def plainLetters : List Char := ['r', 'R', 'b', 'B', 'u', 'U']

/-- The text is a whole string with `body` between its quotes, and nothing in it is special. -/
def IsPlainString (mark : Char) (body : List Char) (t : String) : Prop :=
  ∃ letters, t.toList = letters ++ mark :: (body ++ [mark]) ∧
    (∀ c ∈ letters, c ∈ plainLetters) ∧ mark ∈ quoteMarks ∧
    ∀ c ∈ body, c ≠ mark ∧ c ≠ '\\' ∧ c ≠ '\n' ∧ c ≠ '\x00'

/-- The text opens a string and does not go on behind a plain one.  Only an empty string may be the
beginning of a longer one: two quotes and a third. -/
structure IsString (t : String) : Prop where
  quoted : IsQuoted t
  ends : ∀ {mark : Char} {body : List Char} {s : String} {c : Char} {back : List Char},
    IsPlainString mark body s → t.toList = s.toList ++ c :: back → body = [] ∧ c = mark

/-- A backslash with the line end behind it, or at the end of the text. -/
def lineJoins : List String := ["\\", "\\\n", "\\\x00", "\\\r\n"]

def IsLineJoin (t : String) : Prop := t ∈ lineJoins

instance (t : String) : Decidable (IsLineJoin t) := inferInstanceAs (Decidable (t ∈ _))

/-- The text of a token or of a line join. -/
inductive Lexeme (t : String) : Prop
  | word (h : IsWord t)
  | number (h : IsNumeral t.toList)
  | operator (h : t ∈ operators)
  | string (h : IsString t)
  | lineJoin (h : IsLineJoin t)

theorem isDigit_of_isNameStart {c : Char} (h : isNameStart c = true) : c.isDigit = false := by
  rw [Bool.eq_false_iff]
  intro hdigit
  simp only [Char.isDigit, Bool.and_eq_true, decide_eq_true_eq] at hdigit
  simp only [isNameStart, Bool.or_eq_true, isAlpha_iff, Bool.and_eq_true, decide_eq_true_eq] at h
  rcases h with ((h | h) | rfl) | h
  · exact absurd (UInt32.le_trans h.1 hdigit.2) (by decide)
  · exact absurd (UInt32.le_trans h.1 hdigit.2) (by decide)
  · exact absurd hdigit (by decide)
  · have hle : c.toNat ≤ 57 := UInt32.le_iff_toNat_le.mp hdigit.2
    omega

/-- An operator starts with none of the characters that other lexemes start with, the point
excepted. -/
theorem head_operator : ∀ op ∈ operators, ∃ c cs, op.toList = c :: cs ∧ isNameStart c = false ∧
    c.isDigit = false ∧ c ∉ quoteMarks ∧ c ≠ '\\' ∧ (c = '.' → op = "." ∨ op = "...") := by
  intro op hop
  have hhead : ∀ op ∈ operators, op.toList.head?.any (fun c => !isNameStart c && !c.isDigit &&
      !quoteMarks.contains c && c != '\\') = true ∧
        (op.toList.head? = some '.' → op = "." ∨ op = "...") := by
    decide
  obtain ⟨hany, hpoint⟩ := hhead op hop
  cases hlist : op.toList with
  | nil => simp [hlist] at hany
  | cons c cs =>
    rw [hlist] at hany hpoint
    refine ⟨c, cs, rfl, ?_, ?_, ?_, ?_, fun h => hpoint (by rw [h]; rfl)⟩
    all_goals simp_all

theorem head_quoted {t : String} (h : IsQuoted t) :
    ∃ c cs, t.toList = c :: cs ∧ c.isDigit = false ∧ c ≠ '.' ∧
      (isNameStart c = true ∨ c ∈ quoteMarks) := by
  obtain ⟨letters, mark, rest, ht, hletters, hmark⟩ := h
  have hdisjoint : ∀ c ∈ quoteLetters ++ quoteMarks, c.isDigit = false ∧ c ≠ '.' :=
    forall_mem_of_all (by decide)
  cases letters with
  | nil =>
    obtain ⟨hdigit, hpoint⟩ := hdisjoint mark (List.mem_append_right _ hmark)
    exact ⟨mark, rest, ht, hdigit, hpoint, Or.inr hmark⟩
  | cons c letters =>
    have hc := hletters c List.mem_cons_self
    have hstart : ∀ c ∈ quoteLetters, isNameStart c = true := forall_mem_of_all (by decide)
    obtain ⟨hdigit, hpoint⟩ := hdisjoint c (List.mem_append_left _ hc)
    exact ⟨c, _, ht, hdigit, hpoint, Or.inl (hstart c hc)⟩

theorem head_lineJoin {t : String} (h : IsLineJoin t) : ∃ cs, t.toList = '\\' :: cs := by
  have hhead : ∀ t ∈ lineJoins, t.toList.head? = some '\\' := by decide
  exact List.head?_eq_some_iff.mp (hhead t h)

theorem Lexeme.exists_cons {t : String} (h : Lexeme t) : ∃ c cs, t.toList = c :: cs := by
  cases h with
  | word h =>
    obtain ⟨c, cs, ht, -⟩ := h
    exact ⟨c, cs, ht⟩
  | number h =>
    obtain ⟨c, cs, ht, -⟩ := h.head
    exact ⟨c, cs, ht⟩
  | operator h =>
    obtain ⟨c, cs, ht, -⟩ := head_operator t h
    exact ⟨c, cs, ht⟩
  | string h =>
    obtain ⟨c, cs, ht, -⟩ := head_quoted h.quoted
    exact ⟨c, cs, ht⟩
  | lineJoin h =>
    obtain ⟨cs, ht⟩ := head_lineJoin h
    exact ⟨'\\', cs, ht⟩

/-! ### Lexemes that run on -/

/-- Written right behind the lexeme `t`, the character `c` may belong to it or to a longer one. -/
inductive RunsOn : String → Char → Prop
  | word {t : String} {c : Char} : IsWord t → isNameContinue c = true → RunsOn t c
  | number {t : String} {c : Char} : IsNumeral t.toList → isNameContinue c = true → RunsOn t c
  | point {t : String} : IsNumeral t.toList → IsDigits t.toList → RunsOn t '.'
  | operator {t op : String} {c : Char} : t ∈ operators → op ∈ operators →
      t.toList ++ [c] <+: op.toList → RunsOn t c
  | fraction {c : Char} : c.isDigit = true → RunsOn "." c
  | lineJoin {t join : String} {c : Char} : IsLineJoin t → IsLineJoin join →
      t.toList ++ [c] <+: join.toList → RunsOn t c
  | letters {t : String} {c : Char} : IsWord t → (∀ d ∈ t.toList, d ∈ quoteLetters) →
      c ∈ quoteMarks → RunsOn t c
  | emptyString {t : String} {c : Char} : IsPlainString c [] t → RunsOn t c
  | string {t : String} {c : Char} : IsQuoted t → (∀ mark body, ¬ IsPlainString mark body t) →
      RunsOn t c

section

variable {t u : String} {c : Char} {back : List Char}

/-- A text and its beginning start with the same character. -/
theorem heads_eq (h : u.toList = t.toList ++ c :: back) {d e : Char} {ds es : List Char}
    (hu : u.toList = d :: ds) (ht : t.toList = e :: es) : d = e ∧ ds = es ++ c :: back := by
  rw [hu, ht, List.cons_append] at h
  exact List.cons.inj h

theorem runsOn_of_word (ht : Lexeme t) (hu : IsWord u) (h : u.toList = t.toList ++ c :: back) :
    RunsOn t c := by
  obtain ⟨d, ds, hd, hstart, hds⟩ := id hu
  cases ht with
  | word ht =>
    obtain ⟨e, es, he, -⟩ := id ht
    obtain ⟨-, rfl⟩ := heads_eq h hd he
    exact .word ht (hds c (by simp))
  | number ht =>
    obtain ⟨e, es, he, hfirst⟩ := ht.head
    obtain ⟨rfl, -⟩ := heads_eq h hd he
    rcases hfirst with hdigit | ⟨rfl, -⟩
    · simp [isDigit_of_isNameStart hstart] at hdigit
    · exact absurd hstart (by decide)
  | operator ht =>
    obtain ⟨e, es, he, hname, -⟩ := head_operator t ht
    obtain ⟨rfl, -⟩ := heads_eq h hd he
    simp [hstart] at hname
  | string ht =>
    -- the quote would have to be a part of the word
    obtain ⟨letters, mark, rest, hletters, -, hmark⟩ := ht.quoted
    exact absurd hmark (hu.not_mem_quoteMarks (by simp [h, hletters]))
  | lineJoin ht =>
    obtain ⟨es, he⟩ := head_lineJoin ht
    obtain ⟨rfl, -⟩ := heads_eq h hd he
    exact absurd hstart (by decide)

theorem runsOn_of_number (ht : Lexeme t) (hu : IsNumeral u.toList)
    (h : u.toList = t.toList ++ c :: back) : RunsOn t c := by
  obtain ⟨d, ds, hd, hfirst⟩ := hu.head
  cases ht with
  | word ht =>
    obtain ⟨e, es, he, hstart, -⟩ := ht
    obtain ⟨rfl, -⟩ := heads_eq h hd he
    rcases hfirst with hdigit | ⟨rfl, -⟩
    · simp [isDigit_of_isNameStart hstart] at hdigit
    · exact absurd hstart (by decide)
  | number ht =>
    rw [h] at hu
    rcases ht.extended hu with hc | ⟨rfl, hdigits⟩
    · exact .number ht hc
    · exact .point ht hdigits
  | operator ht =>
    obtain ⟨e, es, he, -, hnot, -, -, hpoint⟩ := head_operator t ht
    obtain ⟨rfl, rfl⟩ := heads_eq h hd he
    rcases hfirst with hdigit | ⟨rfl, f, fs, hf, hdigit⟩
    · simp [hdigit] at hnot
    · rcases hpoint rfl with rfl | rfl
      · obtain rfl : es = [] := by simpa using he.symm
        obtain ⟨rfl, -⟩ := List.cons.inj hf
        exact .fraction hdigit
      · obtain rfl : es = ['.', '.'] := by simpa using he.symm
        obtain ⟨rfl, -⟩ := List.cons.inj hf
        exact absurd hdigit (by decide)
  | string ht =>
    obtain ⟨e, es, he, hnot, hpoint, -⟩ := head_quoted ht.quoted
    obtain ⟨rfl, -⟩ := heads_eq h hd he
    rcases hfirst with hdigit | ⟨rfl, -⟩
    · simp [hdigit] at hnot
    · exact absurd rfl hpoint
  | lineJoin ht =>
    obtain ⟨es, he⟩ := head_lineJoin ht
    obtain ⟨rfl, -⟩ := heads_eq h hd he
    rcases hfirst with hdigit | ⟨heq, -⟩
    · exact absurd hdigit (by decide)
    · exact absurd heq (by decide)

theorem runsOn_of_operator (ht : Lexeme t) (hu : u ∈ operators)
    (h : u.toList = t.toList ++ c :: back) : RunsOn t c := by
  obtain ⟨d, ds, hd, hname, hdigit, hquote, hslash, hpoint⟩ := head_operator u hu
  cases ht with
  | word ht =>
    obtain ⟨e, es, he, hstart, -⟩ := ht
    obtain ⟨rfl, -⟩ := heads_eq h hd he
    simp [hstart] at hname
  | number ht =>
    obtain ⟨e, es, he, hfirst⟩ := ht.head
    obtain ⟨rfl, rfl⟩ := heads_eq h hd he
    rcases hfirst with hfirst | ⟨rfl, f, fs, rfl, hf⟩
    · simp [hfirst] at hdigit
    · rcases hpoint rfl with rfl | rfl
      · simp at hd
      · obtain ⟨rfl, -⟩ : '.' = f ∧ _ := by simpa using hd
        exact absurd hf (by decide)
  | operator ht => exact .operator ht hu ⟨back, by rw [h]; simp⟩
  | string ht =>
    obtain ⟨e, es, he, -, -, hfirst⟩ := head_quoted ht.quoted
    obtain ⟨rfl, -⟩ := heads_eq h hd he
    rcases hfirst with hfirst | hfirst
    · simp [hfirst] at hname
    · exact absurd hfirst hquote
  | lineJoin ht =>
    obtain ⟨es, he⟩ := head_lineJoin ht
    exact absurd (heads_eq h hd he).1 hslash

theorem runsOn_of_lineJoin (ht : Lexeme t) (hu : IsLineJoin u)
    (h : u.toList = t.toList ++ c :: back) : RunsOn t c := by
  obtain ⟨ds, hd⟩ := head_lineJoin hu
  cases ht with
  | word ht =>
    obtain ⟨e, es, he, hstart, -⟩ := ht
    obtain ⟨rfl, -⟩ := heads_eq h hd he
    exact absurd hstart (by decide)
  | number ht =>
    obtain ⟨e, es, he, hfirst⟩ := ht.head
    obtain ⟨rfl, -⟩ := heads_eq h hd he
    rcases hfirst with hdigit | ⟨heq, -⟩
    · exact absurd hdigit (by decide)
    · exact absurd heq (by decide)
  | operator ht =>
    obtain ⟨e, es, he, -, -, -, hslash, -⟩ := head_operator t ht
    exact absurd (heads_eq h hd he).1.symm hslash
  | string ht =>
    obtain ⟨e, es, he, -, -, hfirst⟩ := head_quoted ht.quoted
    obtain ⟨rfl, -⟩ := heads_eq h hd he
    rcases hfirst with hfirst | hfirst
    · exact absurd hfirst (by decide)
    · exact absurd hfirst (by decide)
  | lineJoin ht => exact .lineJoin ht hu ⟨back, by rw [h]; simp⟩

/-- A word at the start of a string is made of its letters. -/
theorem runsOn_of_word_of_quoted (ht : IsWord t) (hu : IsQuoted u)
    (h : u.toList = t.toList ++ c :: back) : RunsOn t c := by
  obtain ⟨letters, mark, rest, hletters, hall, hmark⟩ := hu
  have hmeet : t.toList = letters → mark = c → RunsOn t c := by
    rintro rfl rfl
    exact .letters ht hall hmark
  rw [hletters] at h
  rcases List.append_eq_append_iff.mp h with ⟨more, hword, hrest⟩ | ⟨more, hword, hrest⟩
  · cases more with
    | nil => exact hmeet (by simpa using hword) (List.cons.inj hrest).1
    | cons d more =>
      -- the quote would have to be a part of the word
      obtain ⟨rfl, -⟩ := List.cons.inj hrest
      exact absurd hmark (ht.not_mem_quoteMarks (by simp [hword]))
  · cases more with
    | nil => exact hmeet (by simpa using hword.symm) (List.cons.inj hrest).1.symm
    | cons d more =>
      obtain ⟨rfl, -⟩ := List.cons.inj hrest
      have hname : ∀ d ∈ quoteLetters, isNameContinue d = true := forall_mem_of_all (by decide)
      exact .word ht (hname c (hall c (by simp [hword])))

theorem runsOn_of_string (ht : Lexeme t) (hu : IsString u) (h : u.toList = t.toList ++ c :: back) :
    RunsOn t c := by
  obtain ⟨d, ds, hd, hdigit, hpoint, hfirst⟩ := head_quoted hu.quoted
  cases ht with
  | word ht => exact runsOn_of_word_of_quoted ht hu.quoted h
  | number ht =>
    obtain ⟨e, es, he, hnumber⟩ := ht.head
    obtain ⟨rfl, -⟩ := heads_eq h hd he
    rcases hnumber with hnumber | ⟨rfl, -⟩
    · simp [hnumber] at hdigit
    · exact absurd rfl hpoint
  | operator ht =>
    obtain ⟨e, es, he, hname, -, hquote, -⟩ := head_operator t ht
    obtain ⟨rfl, -⟩ := heads_eq h hd he
    rcases hfirst with hfirst | hfirst
    · simp [hfirst] at hname
    · exact absurd hfirst hquote
  | string ht =>
    by_cases hplain : ∃ mark body, IsPlainString mark body t
    · obtain ⟨mark, body, hplain⟩ := hplain
      obtain ⟨rfl, rfl⟩ := hu.ends hplain h
      exact .emptyString hplain
    · exact .string ht.quoted fun mark body hbody => hplain ⟨mark, body, hbody⟩
  | lineJoin ht =>
    obtain ⟨es, he⟩ := head_lineJoin ht
    obtain ⟨rfl, -⟩ := heads_eq h hd he
    rcases hfirst with hfirst | hfirst
    · exact absurd hfirst (by decide)
    · exact absurd hfirst (by decide)

/-- **Where one lexeme is the start of another**, the shorter one runs on. -/
theorem Lexeme.runsOn (ht : Lexeme t) (hu : Lexeme u) (h : u.toList = t.toList ++ c :: back) :
    RunsOn t c := by
  cases hu with
  | word hu => exact runsOn_of_word ht hu h
  | number hu => exact runsOn_of_number ht hu h
  | operator hu => exact runsOn_of_operator ht hu h
  | string hu => exact runsOn_of_string ht hu h
  | lineJoin hu => exact runsOn_of_lineJoin ht hu h

end

/-! ### Joined lexemes -/

/-- Behind a common beginning, two neighbours `t` and `u` of the first list have run together in the
second one: its lexeme begins with `t` and the first character of `u`. -/
inductive Glued : List String → List String → Prop
  | here {t u t' : String} {c : Char} {cs back : List Char} {rest rest' : List String} :
      u.toList = c :: cs → t'.toList = t.toList ++ c :: back → RunsOn t c →
      Glued (t :: u :: rest) (t' :: rest')
  | there {t : String} {rest rest' : List String} : Glued rest rest' →
      Glued (t :: rest) (t :: rest')

theorem toList_join_cons (t : String) (rest : List String) :
    (String.join (t :: rest)).toList = t.toList ++ (String.join rest).toList := by
  rw [String.join_cons, String.toList_append]

/-- The longer of two first lexemes has run over the end of the shorter one. -/
theorem glued_of_longer {t t' : String} {c : Char} {back : List Char} {rest rest' : List String}
    (ht : Lexeme t) (ht' : Lexeme t') (hrest : ∀ u ∈ rest, Lexeme u)
    (h : t'.toList = t.toList ++ c :: back)
    (hjoin : (String.join rest).toList = c :: back ++ (String.join rest').toList) :
    Glued (t :: rest) (t' :: rest') := by
  cases rest with
  | nil => simp at hjoin
  | cons u rest =>
    obtain ⟨d, ds, hu⟩ := (hrest u List.mem_cons_self).exists_cons
    rw [toList_join_cons, hu, List.cons_append, List.cons_append] at hjoin
    obtain ⟨rfl, -⟩ := List.cons.inj hjoin
    exact .here hu h (ht.runsOn ht' h)

/-- **Joined lexemes.**  Two lists of lexemes with the same joined text are equal, or two neighbours
of one have run together in the other. -/
theorem eq_or_glued_of_join_eq {l l' : List String} (hl : ∀ t ∈ l, Lexeme t)
    (hl' : ∀ t ∈ l', Lexeme t) (h : String.join l = String.join l') :
    l = l' ∨ Glued l l' ∨ Glued l' l := by
  induction l generalizing l' with
  | nil =>
    cases l' with
    | nil => exact Or.inl rfl
    | cons t' rest' =>
      obtain ⟨c, cs, hc⟩ := (hl' t' List.mem_cons_self).exists_cons
      have hlist := congrArg String.toList h
      rw [toList_join_cons, hc] at hlist
      simp at hlist
  | cons t rest ih =>
    obtain ⟨ht, hrest⟩ := List.forall_mem_cons.mp hl
    cases l' with
    | nil =>
      obtain ⟨c, cs, hc⟩ := ht.exists_cons
      have hlist := congrArg String.toList h
      rw [toList_join_cons, hc] at hlist
      simp at hlist
    | cons t' rest' =>
      obtain ⟨ht', hrest'⟩ := List.forall_mem_cons.mp hl'
      have hlist := congrArg String.toList h
      rw [toList_join_cons, toList_join_cons] at hlist
      by_cases htt : t = t'
      · subst htt
        have hjoin : String.join rest = String.join rest' :=
          String.toList_inj.mp (List.append_cancel_left hlist)
        rcases ih hrest hrest' hjoin with rfl | h | h
        · exact Or.inl rfl
        · exact Or.inr (Or.inl h.there)
        · exact Or.inr (Or.inr h.there)
      · rcases List.append_eq_append_iff.mp hlist with ⟨back, heq, hjoin⟩ | ⟨back, heq, hjoin⟩
        · cases back with
          | nil => exact absurd (String.toList_inj.mp (by rw [heq, List.append_nil])) htt
          | cons c back => exact Or.inr (Or.inl (glued_of_longer ht ht' hrest heq hjoin))
        · cases back with
          | nil => exact absurd (String.toList_inj.mp (by rw [heq, List.append_nil])) htt
          | cons c back => exact Or.inr (Or.inr (glued_of_longer ht' ht hrest' heq hjoin))

/-- No two neighbours can run together. -/
def Separate (l : List String) : Prop := l.IsChain fun t u => ∀ c ∈ u.toList.head?, ¬ RunsOn t c

theorem Glued.not_separate {l l' : List String} (h : Glued l l') : ¬ Separate l := by
  induction h with
  | here hu _ hruns =>
    intro hseparate
    exact (List.isChain_cons_cons.mp hseparate).1 _ (by rw [hu]; rfl) hruns
  | there _ ih => exact fun hseparate => ih hseparate.of_cons

/-- **Separate lexemes** can be told from their joined text. -/
theorem join_eq_iff_of_separate {l l' : List String} (hl : ∀ t ∈ l, Lexeme t)
    (hl' : ∀ t ∈ l', Lexeme t) (h : Separate l) (h' : Separate l') :
    String.join l = String.join l' ↔ l = l' := by
  constructor
  · intro hjoin
    rcases eq_or_glued_of_join_eq hl hl' hjoin with heq | hglued | hglued
    · exact heq
    · exact absurd h hglued.not_separate
    · exact absurd h' hglued.not_separate
  · rintro rfl
    rfl

/-! ### Lexemes that do not run on -/

/-- The text begins like a word or a number. -/
def startsWordlike (t : String) : Bool :=
  t.toList.head?.any fun c => isNameStart c || c.isDigit || c == '.'

/-- A test for texts without quotes: the character may belong to the word or number in front of it,
or to a longer operator or line join. -/
def mayRun (t : String) (c : Char) : Bool :=
  startsWordlike t && (isNameContinue c || c == '.' || quoteMarks.contains c) ||
    (operators ++ lineJoins).any fun op => (t.toList ++ [c]).isPrefixOf op.toList

/-- There is a quote in every string. -/
theorem IsQuoted.exists_mark {t : String} (h : IsQuoted t) : ∃ c ∈ t.toList, c ∈ quoteMarks := by
  obtain ⟨letters, mark, rest, ht, -, hmark⟩ := h
  exact ⟨mark, by simp [ht], hmark⟩

theorem IsPlainString.isQuoted {mark : Char} {body : List Char} {t : String}
    (h : IsPlainString mark body t) : IsQuoted t := by
  obtain ⟨letters, ht, hletters, hmark, -⟩ := h
  have hplain : ∀ c ∈ plainLetters, c ∈ quoteLetters := forall_mem_of_all (by decide)
  exact ⟨letters, mark, _, ht, fun c hc => hplain c (hletters c hc), hmark⟩

/-- **A test for separate lexemes** without quotes. -/
theorem not_runsOn_of_mayRun {t : String} {c : Char} (ht : ∀ d ∈ t.toList, d ∉ quoteMarks)
    (h : mayRun t c = false) : ¬ RunsOn t c := by
  have hquoted : ¬ IsQuoted t := by
    intro hquoted
    obtain ⟨d, hd, hmark⟩ := hquoted.exists_mark
    exact ht d hd hmark
  simp only [mayRun, Bool.or_eq_false_iff, Bool.and_eq_false_iff] at h
  obtain ⟨hword, hlonger⟩ := h
  have hname : startsWordlike t = true → isNameContinue c = false ∧ c ≠ '.' ∧ c ∉ quoteMarks := by
    intro hstart
    simpa [hstart, and_assoc] using hword
  have hnot : ∀ op ∈ operators ++ lineJoins, ¬ t.toList ++ [c] <+: op.toList := by
    intro op hop
    simpa using List.any_eq_false.mp hlonger op hop
  have hnumeral : IsNumeral t.toList → startsWordlike t = true := by
    intro hnumber
    obtain ⟨d, ds, hd, hfirst⟩ := hnumber.head
    rcases hfirst with hdigit | ⟨rfl, -⟩
    · simp [startsWordlike, hd, hdigit]
    · simp [startsWordlike, hd]
  have hisWord : IsWord t → startsWordlike t = true := by
    rintro ⟨d, ds, hd, hstart, -⟩
    simp [startsWordlike, hd, hstart]
  intro hruns
  cases hruns with
  | word hword hc => simp [(hname (hisWord hword)).1] at hc
  | number hnumber hc => simp [(hname (hnumeral hnumber)).1] at hc
  | point hnumber _ => exact (hname (hnumeral hnumber)).2.1 rfl
  | operator _ hop hprefix => exact hnot _ (List.mem_append_left _ hop) hprefix
  | fraction hdigit => simpa [(hname (by decide)).1] using isNameContinue_of_isDigit hdigit
  | lineJoin _ hjoin hprefix => exact hnot _ (List.mem_append_right _ hjoin) hprefix
  | letters hword _ hc => exact (hname (hisWord hword)).2.2 hc
  | emptyString hplain => exact hquoted hplain.isQuoted
  | string h _ => exact hquoted h

/-- **A plain string does not run on**, unless it is empty. -/
theorem IsPlainString.not_runsOn {mark c : Char} {body : List Char} {t : String}
    (h : IsPlainString mark body t) (hbody : body ≠ []) : ¬ RunsOn t c := by
  obtain ⟨d, ds, hd, hdigit, hpoint, hfirst⟩ := head_quoted h.isQuoted
  obtain ⟨e, he, hmark⟩ := h.isQuoted.exists_mark
  have hnumeral : ¬ IsNumeral t.toList := by
    intro hnumber
    obtain ⟨f, fs, hf, hstart⟩ := hnumber.head
    obtain ⟨rfl, -⟩ := List.cons.inj (hd.symm.trans hf)
    rcases hstart with hstart | ⟨rfl, -⟩
    · simp [hstart] at hdigit
    · exact hpoint rfl
  intro hruns
  cases hruns with
  | word hword _ => exact hword.not_mem_quoteMarks he hmark
  | number hnumber _ => exact hnumeral hnumber
  | point hnumber _ => exact hnumeral hnumber
  | operator hop _ _ =>
    obtain ⟨f, fs, hf, hname, -, hquote, -⟩ := head_operator t hop
    obtain ⟨rfl, -⟩ := List.cons.inj (hd.symm.trans hf)
    rcases hfirst with hfirst | hfirst
    · simp [hfirst] at hname
    · exact hquote hfirst
  | fraction _ => exact hpoint (List.cons.inj hd).1.symm
  | lineJoin hjoin _ _ =>
    obtain ⟨fs, hf⟩ := head_lineJoin hjoin
    obtain ⟨rfl, -⟩ := List.cons.inj (hd.symm.trans hf)
    rcases hfirst with hfirst | hfirst
    · exact absurd hfirst (by decide)
    · exact absurd hfirst (by decide)
  | letters _ hletters _ =>
    have hdisjoint : ∀ e ∈ quoteMarks, e ∉ quoteLetters := forall_mem_of_all (by decide)
    exact hdisjoint e hmark (hletters e he)
  | emptyString hempty =>
    -- the last character of the text between the quotes would be a quote
    obtain ⟨letters, ht, -, -, hplain⟩ := h
    obtain ⟨letters', ht', -⟩ := hempty
    obtain ⟨front, b, rfl⟩ := List.eq_nil_or_concat body |>.resolve_left hbody
    have hends : (letters ++ mark :: front) ++ [b, mark] = letters' ++ [c, c] := by
      simpa using ht.symm.trans ht'
    obtain ⟨-, hlast⟩ := List.append_inj' hends rfl
    obtain ⟨rfl, hlast⟩ := List.cons.inj hlast
    obtain ⟨rfl, -⟩ := List.cons.inj hlast
    exact (hplain mark (by simp)).1 rfl
  | string _ hnot => exact hnot mark body h

end StubLayers
