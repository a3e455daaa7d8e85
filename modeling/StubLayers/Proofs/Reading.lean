import StubLayers.Declaration.TypeText
import StubLayers.Proofs.Lexemes
import StubLayers.Stub.Grammar.Basic

/-!
# Passing over a text

How a text is cut into lexemes and gaps, and what a look ahead tells of it.

* `Passes ts cs rest`: from `cs` to `rest` lie the lexemes `ts`, with blanks, comments and line
  joins between them.
* `Expr.lexemes`: the lexemes of an expression, comments left out.
* `Peek.Ahead p r`: what holds of the token `p` ahead of a reader `r`, however it was found.
* `Reader.ahead_peek`: a look ahead finds such a token.
-/

namespace StubLayers

open Stub Text

/-! ### Lexemes and gaps -/

/-- From `cs` to `rest` lie the lexemes `ts`, with layout between them.  A line join may be listed
or passed over. -/
inductive Passes : List String → List Char → List Char → Prop
  | done {cs : List Char} : Passes [] cs cs
  | blank {ts : List String} {c : Char} {cs rest : List Char} : Stub.isBlank c = true →
      Passes ts cs rest → Passes ts (c :: cs) rest
  | comment {ts : List String} {body cs rest : List Char} : (∀ c ∈ body, c ≠ '\n' ∧ c ≠ '\x00') →
      (∀ c ∈ cs.head?, c = '\n' ∨ c = '\x00') → Passes ts cs rest →
      Passes ts ('#' :: (body ++ cs)) rest
  | lineJoin {ts : List String} {t : String} {cs rest : List Char} : IsLineJoin t →
      Passes ts cs rest → Passes ts (t.toList ++ cs) rest
  | lexeme {ts : List String} {t : String} {cs rest : List Char} : Lexeme t →
      Passes ts cs rest → Passes (t :: ts) (t.toList ++ cs) rest

namespace Passes

variable {ts us : List String} {cs ds rest : List Char}

theorem trans (h : Passes ts cs ds) (h' : Passes us ds rest) : Passes (ts ++ us) cs rest := by
  induction h with
  | done => exact h'
  | blank hc _ ih => exact .blank hc (ih h')
  | comment hbody hend _ ih => exact .comment hbody hend (ih h')
  | lineJoin ht _ ih => exact .lineJoin ht (ih h')
  | lexeme ht _ ih => exact .lexeme ht (ih h')

/-- Behind a gap. -/
theorem gap (h : Passes [] cs ds) (h' : Passes us ds rest) : Passes us cs rest := h.trans h'

theorem single {t : String} (ht : Lexeme t) : Passes [t] (t.toList ++ rest) rest :=
  .lexeme ht .done

theorem suffix (h : Passes ts cs rest) : rest <:+ cs := by
  induction h with
  | done => exact List.suffix_refl _
  | blank _ _ ih => exact ih.trans (List.suffix_cons _ _)
  | comment _ _ _ ih => exact ih.trans ((List.suffix_append _ _).trans (List.suffix_cons _ _))
  | lineJoin _ _ ih => exact ih.trans (List.suffix_append _ _)
  | lexeme _ _ ih => exact ih.trans (List.suffix_append _ _)

theorem lexeme_of_mem (h : Passes ts cs rest) : ∀ t ∈ ts, Lexeme t := by
  induction h with
  | done => simp
  | blank _ _ ih => exact ih
  | comment _ _ _ ih => exact ih
  | lineJoin _ _ ih => exact ih
  | lexeme ht _ ih => exact List.forall_mem_cons.mpr ⟨ht, ih⟩

/-- Listed line joins may as well be passed over. -/
theorem filter {p : String → Bool} (h : Passes ts cs rest)
    (hp : ∀ t ∈ ts, p t = false → IsLineJoin t) : Passes (ts.filter p) cs rest := by
  induction h with
  | done => exact .done
  | blank hc _ ih => exact .blank hc (ih hp)
  | comment hbody hend _ ih => exact .comment hbody hend (ih hp)
  | lineJoin ht _ ih => exact .lineJoin ht (ih hp)
  | @lexeme ts t cs rest ht _ ih =>
    obtain ⟨hpt, hpts⟩ := List.forall_mem_cons.mp hp
    cases hkeep : p t with
    | true =>
      rw [List.filter_cons_of_pos hkeep]
      exact .lexeme ht (ih hpts)
    | false =>
      rw [List.filter_cons_of_neg (by simp [hkeep])]
      exact .lineJoin (hpt hkeep) (ih hpts)

theorem of_lineJoins (h : Passes ts cs rest) (hts : ∀ t ∈ ts, IsLineJoin t) :
    Passes [] cs rest := by
  have hnone := h.filter (p := fun _ => false) fun t ht _ => hts t ht
  rwa [List.filter_false] at hnone

theorem dropWhile_isBlank (cs : List Char) : Passes [] cs (cs.dropWhile Stub.isBlank) := by
  induction cs with
  | nil => exact .done
  | cons c cs ih =>
    by_cases hc : Stub.isBlank c = true
    · rw [List.dropWhile_cons_of_pos hc]
      exact .blank hc ih
    · rw [List.dropWhile_cons_of_neg hc]
      exact .done

end Passes

/-! ### Stars in front -/

/-- There is a first lexeme, no line join, and it does not begin with a star. -/
def Unstarred (ts : List String) : Prop :=
  ∃ t more, ts = t :: more ∧ ¬ IsLineJoin t ∧ t.toList.head? ≠ some '*'

theorem Unstarred.append {ts : List String} (h : Unstarred ts) (us : List String) :
    Unstarred (ts ++ us) := by
  obtain ⟨t, more, rfl, ht⟩ := h
  exact ⟨t, more ++ us, rfl, ht⟩

theorem unstarred_of_head {t : String} {c : Char} {cs : List Char} (ht : t.toList = c :: cs)
    (hc : c ≠ '*' ∧ c ≠ '\\') : Unstarred [t] := by
  refine ⟨t, [], rfl, fun hjoin => ?_, ?_⟩
  · obtain ⟨ds, hds⟩ := head_lineJoin hjoin
    rw [ht] at hds
    exact hc.2 (List.cons.inj hds).1
  · rw [ht, List.head?_cons]
    exact fun h => hc.1 (Option.some.inj h)

theorem unstarred_of_isWord {t : String} (h : IsWord t) : Unstarred [t] := by
  obtain ⟨c, cs, ht, hc, -⟩ := h
  refine unstarred_of_head ht ⟨?_, ?_⟩ <;> rintro rfl <;> exact absurd hc (by decide)

theorem unstarred_of_isNumeral {t : String} (h : IsNumeral t.toList) : Unstarred [t] := by
  obtain ⟨c, cs, ht, hc⟩ := h.head
  refine unstarred_of_head ht ⟨?_, ?_⟩ <;> rintro rfl <;> rcases hc with hc | ⟨hc, -⟩ <;>
    exact absurd hc (by decide)

theorem unstarred_of_isQuoted {t : String} (h : IsQuoted t) : Unstarred [t] := by
  obtain ⟨c, cs, ht, -, -, hc⟩ := head_quoted h
  refine unstarred_of_head ht ⟨?_, ?_⟩ <;> rintro rfl <;> rcases hc with hc | hc <;>
    exact absurd hc (by decide)

theorem Passes.head_ne_star {ts : List String} {cs rest : List Char} (h : Passes ts cs rest)
    (hts : Unstarred ts) : cs.head? ≠ some '*' := by
  obtain ⟨t, more, rfl, -, ht⟩ := hts
  cases h with
  | blank hc _ =>
    rintro ⟨⟩
    exact absurd hc (by decide)
  | comment _ _ _ => simp
  | lineJoin hjoin _ =>
    obtain ⟨ds, hds⟩ := head_lineJoin hjoin
    simp [hds]
  | lexeme hlexeme _ =>
    obtain ⟨c, ds, hds⟩ := hlexeme.exists_cons
    simpa [hds] using ht

/-! ### The lexemes of an expression -/

namespace Expr

mutual

/-- The lexemes of an expression in order: its tokens and line joins.  Comments are left out, and a
string literal is one lexeme. -/
def lexemes : Expr → List String
  | leaf .comment _ _ => []
  | leaf _ _ text => [text]
  | literal _ text _ => [text]
  | form _ _ children => lexemesAll children

def lexemesAll : List Expr → List String
  | [] => []
  | e :: rest => lexemes e ++ lexemesAll rest

end

@[simp] theorem lexemesAll_nil : lexemesAll [] = [] := by rw [lexemesAll]

@[simp] theorem lexemesAll_cons (e : Expr) (rest : List Expr) :
    lexemesAll (e :: rest) = lexemes e ++ lexemesAll rest := by rw [lexemesAll]

@[simp] theorem lexemesAll_append (es more : List Expr) :
    lexemesAll (es ++ more) = lexemesAll es ++ lexemesAll more := by
  induction es with
  | nil => simp
  | cons e es ih => simp [ih]

@[simp] theorem lexemesAll_flatMap {α : Type} (f : α → List Expr) (as : List α) :
    lexemesAll (as.flatMap f) = as.flatMap fun a => lexemesAll (f a) := by
  induction as with
  | nil => simp
  | cons a as ih => simp [ih]

@[simp] theorem lexemesAll_flatten (ess : List (List Expr)) :
    lexemesAll ess.flatten = ess.flatMap lexemesAll := by
  rw [← List.flatMap_id', lexemesAll_flatMap]

@[simp] theorem lexemes_form (kind : Form) (span : Span) (children : List Expr) :
    lexemes (form kind span children) = lexemesAll children := by rw [lexemes]

@[simp] theorem lexemes_ofChildren (kind : Form) (children : List Expr) :
    lexemes (ofChildren kind children) = lexemesAll children := by
  unfold ofChildren
  split <;> exact lexemes_form _ _ _

@[simp] theorem lexemes_literal (span : Span) (text : String) (parts : List Expr) :
    lexemes (literal span text parts) = [text] := by rw [lexemes]

theorem lexemes_leaf {kind : Leaf} (h : kind ≠ .comment) (span : Span) (text : String) :
    lexemes (leaf kind span text) = [text] := by
  rw [lexemes]
  rintro rfl
  exact h rfl

mutual

/-- **The text of a type** is its lexemes written next to each other. -/
theorem typeText_eq_join (e : Expr) : e.typeText = String.join e.lexemes := by
  match e with
  | leaf kind span text => cases kind <;> simp [typeText, lexemes, String.join_cons]
  | literal span text parts => simp [typeText, String.join_cons]
  | form kind span children => rw [typeText, lexemes_form, typeTextAll_eq_join children]

theorem typeTextAll_eq_join (es : List Expr) : typeTextAll es = String.join (lexemesAll es) := by
  match es with
  | [] => simp [typeTextAll]
  | e :: rest =>
    rw [typeTextAll, lexemesAll_cons, String.join_append, typeText_eq_join e,
      typeTextAll_eq_join rest]

end

end Expr

/-! ### Readers -/

theorem drop_length_takeWhile (p : Char → Bool) (cs : List Char) :
    cs.drop (cs.takeWhile p).length = cs.dropWhile p := by
  have hsplit := List.takeWhile_append_dropWhile (p := p) (l := cs)
  exact (congrArg (List.drop _) hsplit).symm.trans List.drop_left

namespace Reader

@[simp] theorem rest_step (r : Reader) : r.step.rest = r.rest.tail := by
  unfold step
  split
  · rename_i h
    rw [h, List.tail_nil]
  · rename_i h
    exact (congrArg List.tail h).symm

@[simp] theorem rest_advance (r : Reader) (n : Nat) : (r.advance n).rest = r.rest.drop n := by
  induction n generalizing r with
  | zero => rfl
  | succ n ih => rw [advance, ih, rest_step, List.drop_tail]

@[simp] theorem rest_skipWhile (p : Char → Bool) (r : Reader) :
    (r.skipWhile p).rest = r.rest.dropWhile p := by
  rw [skipWhile, rest_advance, drop_length_takeWhile]

theorem suffix_step (r : Reader) : r.step.rest <:+ r.rest := by
  rw [rest_step]
  exact List.tail_suffix _

theorem suffix_advance (r : Reader) (n : Nat) : (r.advance n).rest <:+ r.rest := by
  rw [rest_advance]
  exact List.drop_suffix n _

theorem suffix_skipWhile (p : Char → Bool) (r : Reader) : (r.skipWhile p).rest <:+ r.rest :=
  r.suffix_advance _

/-- The text up to a later reader is what has been read in between. -/
theorem toList_textTo {r s : Reader} (h : s.rest <:+ r.rest) :
    (r.textTo s).toList ++ s.rest = r.rest := by
  obtain ⟨front, hfront⟩ := h
  have hlength : r.left - s.left = front.length := by
    rw [r.left_eq, s.left_eq, ← hfront, List.length_append, Nat.add_sub_cancel]
  rw [textTo, hlength, String.toList_ofList, ← hfront, List.take_left]

theorem textTo_advance (r : Reader) (n : Nat) :
    (r.textTo (r.advance n)).toList = r.rest.take n := by
  have h := toList_textTo (r.suffix_advance n)
  rw [rest_advance] at h
  exact List.append_cancel_right (h.trans (List.take_append_drop n r.rest).symm)

end Reader

/-! ### Gaps -/

/-- One character of a gap. -/
inductive GapStep : GapState → Char → GapState → Prop
  | blank {c : Char} : Stub.isBlank c = true → GapStep .plain c .plain
  | comment : GapStep .plain '#' .comment
  | commentEnd {c : Char} : GapStep .comment c .plain
  | commentText {c : Char} : GapStep .comment c .comment
  | backslash : GapStep .plain '\\' .backslash
  | lineEnd : GapStep .backslash '\n' .plain
  | carriageReturn : GapStep .backslash '\r' .backslashReturn
  | returnEnd : GapStep .backslashReturn '\n' .plain

/-- What a scan does at a character: it stops in front of it, or takes one step. -/
theorem scanGap_cons {layout : Bool} {state : GapState} {gap g : Gap} {c : Char} {cs : List Char}
    (h : scanGap layout state gap (c :: cs) = some g) :
    state = .plain ∧ g.size = gap.size ∧ g.rest = c :: cs ∧ g.comment = gap.comment ∨
    ∃ state' gap', GapStep state c state' ∧ scanGap layout state' gap' cs = some g ∧
      gap'.size = gap.size + 1 ∧
      (gap.comment.isSome = true ∨ state = .plain ∧ state' = .comment →
        gap'.comment.isSome = true) := by
  cases state with
  | plain =>
    rw [scanGap] at h
    dsimp only at h
    split_ifs at h with h₁ h₂ h₃ h₄ h₅ h₆ h₇
    · exact Or.inr ⟨_, _, .blank (by subst h₁; decide), h, rfl, by simp⟩
    · exact Or.inr ⟨_, _, .blank (by subst h₂; decide), h, rfl, by simp⟩
    · exact Or.inr ⟨_, _, .blank (by rcases h₃ with rfl | rfl <;> decide), h, rfl, by simp⟩
    · exact Or.inr ⟨_, _, .blank (by subst h₄; decide), h, rfl, by simp⟩
    · obtain ⟨rfl, -⟩ := h₅
      exact Or.inr ⟨_, _, .comment, h, rfl, fun _ => by simp⟩
    · subst h₇
      exact Or.inr ⟨_, _, .backslash, h, rfl, by simp⟩
    · obtain rfl := Option.some.inj h
      exact Or.inl ⟨rfl, rfl, rfl, rfl⟩
  | comment =>
    rw [scanGap] at h
    dsimp only at h
    split_ifs at h
    · exact Or.inr ⟨_, _, .commentEnd, h, rfl, by simp⟩
    · exact Or.inr ⟨_, _, .commentText, h, rfl, by simp⟩
  | backslash =>
    rw [scanGap] at h
    split_ifs at h with h₁ h₂
    · subst h₁
      exact Or.inr ⟨_, _, .lineEnd, h, rfl, by simp⟩
    · subst h₂
      exact Or.inr ⟨_, _, .carriageReturn, h, rfl, by simp⟩
  | backslashReturn =>
    rw [scanGap] at h
    split_ifs at h with h₁
    subst h₁
    exact Or.inr ⟨_, _, .returnEnd, h, rfl, by simp⟩

/-- At the end of the text every scan ends. -/
theorem scanGap_nil {layout : Bool} {state : GapState} {gap g : Gap}
    (h : scanGap layout state gap [] = some g) :
    g.size = gap.size ∧ g.rest = [] ∧ g.comment = gap.comment := by
  cases state <;> (rw [scanGap] at h; obtain rfl := Option.some.inj h; exact ⟨rfl, rfl, rfl⟩)

theorem rest_of_scanGap {layout : Bool} {state : GapState} {gap g : Gap} {cs : List Char}
    (h : scanGap layout state gap cs = some g) :
    ∃ k, g.size = gap.size + k ∧ g.rest = cs.drop k := by
  induction cs generalizing state gap with
  | nil =>
    obtain ⟨hsize, hrest, -⟩ := scanGap_nil h
    exact ⟨0, hsize, hrest⟩
  | cons c cs ih =>
    rcases scanGap_cons h with ⟨-, hsize, hrest, -⟩ | ⟨state', gap', -, h', hsize, -⟩
    · exact ⟨0, hsize, hrest⟩
    · obtain ⟨k, hk, hrest⟩ := ih h'
      exact ⟨k + 1, by omega, hrest⟩

/-- A comment that was looked through is not forgotten. -/
theorem isSome_comment_of_scanGap {layout : Bool} {state : GapState} {gap g : Gap} {cs : List Char}
    (h : scanGap layout state gap cs = some g) (hcomment : gap.comment.isSome = true) :
    g.comment.isSome = true := by
  induction cs generalizing state gap with
  | nil =>
    obtain ⟨-, -, heq⟩ := scanGap_nil h
    rwa [heq]
  | cons c cs ih =>
    rcases scanGap_cons h with ⟨-, -, -, heq⟩ | ⟨state', gap', -, h', -, hkeep⟩
    · rwa [heq]
    · exact ih h' (hkeep (Or.inl hcomment))

/-- What a scan has passed of the line join that it stands in. -/
def GapState.pending : GapState → List Char
  | plain => []
  | comment => []
  | backslash => ['\\']
  | backslashReturn => ['\\', '\r']

/-- A gap without comments is made of blanks and line joins. -/
theorem passes_of_scanGap {layout : Bool} {state : GapState} {gap g : Gap} {cs : List Char}
    (h : scanGap layout state gap cs = some g) (hstate : state ≠ .comment)
    (hcomment : g.comment = none) (hrest : g.rest ≠ []) :
    Passes [] (state.pending ++ cs) g.rest := by
  induction cs generalizing state gap with
  | nil => exact absurd (scanGap_nil h).2.1 hrest
  | cons c cs ih =>
    rcases scanGap_cons h with ⟨rfl, -, hstop, -⟩ | ⟨state', gap', hstep, h', -, hc⟩
    · rw [hstop]
      exact .done
    · cases hstep with
      | blank hblank => exact .blank hblank (ih h' (by decide))
      | comment =>
        have hsome := isSome_comment_of_scanGap h' (hc (Or.inr ⟨rfl, rfl⟩))
        simp [hcomment] at hsome
      | commentEnd => exact absurd rfl hstate
      | commentText => exact absurd rfl hstate
      | backslash => exact ih h' (by decide)
      | lineEnd => exact .lineJoin (t := "\\\n") (by decide) (ih h' (by decide))
      | carriageReturn => exact ih h' (by decide)
      | returnEnd => exact .lineJoin (t := "\\\r\n") (by decide) (ih h' (by decide))

/-! ### Tokens -/

namespace Token

/-- The text of a token that is one lexeme. -/
def lexeme? : Token → Option String
  | word text => some text
  | number _ text => some text
  | operator text => some text
  | _ => none

/-- The token is written as the text; of a string only the opening is a part of the token. -/
inductive WrittenAs : Token → String → Prop
  | word {text : String} : IsWord text → WrittenAs (.word text) text
  | number {fraction : Bool} {text : String} : IsNumeral text.toList →
      WrittenAs (.number fraction text) text
  | operator {text : String} : text ∈ operators → WrittenAs (.operator text) text
  | quote {q : Quote} {text : String} : IsQuoted text → WrittenAs (.quote q) text
  | conversion {text text' : String} : WrittenAs (.conversion text) text'
  | mark {m : Mark} {text : String} : WrittenAs (.mark m) text
  | eof {text : String} : WrittenAs .eof text
  | invalid {text : String} : WrittenAs .invalid text

namespace WrittenAs

variable {token : Token} {text : String}

theorem lexeme (h : token.WrittenAs text) (ht : token.lexeme?.isSome = true) : Lexeme text := by
  cases h with
  | word h => exact .word h
  | number h => exact .number h
  | operator h => exact .operator h
  | quote | conversion | mark | eof | invalid => simp [lexeme?] at ht

theorem eq_of_lexeme? (h : token.WrittenAs text) {t : String} (ht : token.lexeme? = some t) :
    text = t := by
  cases h with
  | word | number | operator => exact Option.some.inj ht
  | quote | conversion | mark | eof | invalid => simp [lexeme?] at ht

theorem isWord (h : token.WrittenAs text) {t : String} (ht : token = .word t) : IsWord text := by
  subst ht
  cases h
  assumption

theorem isNumeral (h : token.WrittenAs text) {fraction : Bool} {t : String}
    (ht : token = .number fraction t) : IsNumeral text.toList := by
  subst ht
  cases h
  assumption

theorem isQuoted (h : token.WrittenAs text) {q : Quote} (hq : token = .quote q) :
    IsQuoted text := by
  subst hq
  cases h
  assumption

end WrittenAs

end Token

namespace Stub

theorem isWord_nameRun {cs : List Char} (h : nameRun cs ≠ []) :
    IsWord (String.ofList (nameRun cs)) := by
  cases cs with
  | nil => exact absurd rfl h
  | cons c cs =>
    rw [nameRun] at h ⊢
    split_ifs at h ⊢ with hc
    · exact ⟨c, _, String.toList_ofList, hc, List.all_eq_true.mp List.all_takeWhile⟩
    · exact absurd rfl h

theorem isPrefix_nameRun (cs : List Char) : nameRun cs <+: cs := by
  cases cs with
  | nil => exact List.prefix_refl _
  | cons c cs =>
    rw [nameRun]
    split
    · exact (List.prefix_cons_inj c).mpr (List.takeWhile_prefix _)
    · exact List.nil_prefix

theorem operatorAt_eq_some {cs : List Char} {op : String} (h : operatorAt cs = some op) :
    op ∈ operators ∧ op.toList <+: cs := by
  have hprefix : op.toList.isPrefixOf cs = true :=
    List.find?_some (p := fun op : String => op.toList.isPrefixOf cs) h
  exact ⟨List.mem_of_find?_eq_some h, List.isPrefixOf_iff_prefix.mp hprefix⟩

theorem writtenAs_plainToken (cs : List Char) :
    (plainToken cs).1.WrittenAs (String.ofList (cs.take (plainToken cs).2)) := by
  unfold plainToken
  split
  · exact .eof
  · split
    · split
      · rename_i n fraction hnumber
        refine .number ?_
        rw [String.toList_ofList]
        exact isNumeral_of_numberRun hnumber
      · split
        · rename_i op hop
          obtain ⟨hmem, hprefix⟩ := operatorAt_eq_some hop
          have htake := List.prefix_iff_eq_take.mp hprefix
          rw [String.length_toList] at htake
          rw [← htake, String.ofList_toList]
          exact .operator hmem
        · split
          · split
            · exact .conversion
            · exact .invalid
          · exact .invalid
    · rename_i word hne
      rw [← List.prefix_iff_eq_take.mp (isPrefix_nameRun _)]
      exact .word (isWord_nameRun hne)

theorem plainToken_ne_quote (cs : List Char) (q : Quote) : (plainToken cs).1 ≠ .quote q := by
  intro h
  unfold plainToken at h
  repeat' split at h
  all_goals cases h

/-- The opening of a string: letters of the right kind and a quote. -/
theorem opening_eq_some {quote q : Quote} {size n : Nat} {cs : List Char}
    (h : Quote.opening quote size cs = some (q, n)) :
    ∃ k, n = size + k ∧ IsQuoted (String.ofList (cs.take k)) := by
  induction cs generalizing quote size with
  | nil => simp [Quote.opening] at h
  | cons c cs ih =>
    have hletter : ∀ {quote' : Quote}, c ∈ quoteLetters →
        Quote.opening quote' (size + 1) cs = some (q, n) →
        ∃ k, n = size + k ∧ IsQuoted (String.ofList ((c :: cs).take k)) := by
      intro quote' hc h'
      obtain ⟨k, hk, letters, mark, rest, htake, hletters, hmark⟩ := ih h'
      refine ⟨k + 1, by omega, c :: letters, mark, rest, ?_, ?_, hmark⟩
      · rw [String.toList_ofList] at htake ⊢
        rw [List.take_succ_cons, htake, List.cons_append]
      · exact List.forall_mem_cons.mpr ⟨hc, hletters⟩
    have hmark : ∀ k, c ∈ quoteMarks → n = size + (k + 1) →
        ∃ k, n = size + k ∧ IsQuoted (String.ofList ((c :: cs).take k)) := by
      intro k hc hn
      refine ⟨k + 1, hn, [], c, cs.take k, ?_, by simp, hc⟩
      rw [String.toList_ofList, List.take_succ_cons, List.nil_append]
    rw [Quote.opening.eq_def] at h
    dsimp only at h
    simp only [Bool.or_eq_true, Bool.and_eq_true, decide_eq_true_eq] at h
    split_ifs at h with h₁ h₂ h₃ h₄ h₅ h₆
    · exact hletter (by rcases h₁ with ((rfl | rfl) | rfl) | rfl <;> decide) h
    · exact hletter (by rcases h₂ with rfl | rfl <;> decide) h
    · exact hletter (by rcases h₃ with rfl | rfl <;> decide) h
    · exact hletter (by rcases h₄ with rfl | rfl <;> decide) h
    · cases h
      exact hmark 0 (by subst h₅; decide) rfl
    · have hc : c ∈ quoteMarks := by rcases h₆ with rfl | rfl <;> decide
      split at h
      · split_ifs at h <;> cases h
        · exact hmark 2 hc rfl
        · exact hmark 0 hc rfl
      · cases h
        exact hmark 0 hc rfl

/-- Letters of plain strings only count. -/
theorem opening_letters {letters : List Char} (h : ∀ c ∈ letters, c ∈ plainLetters) (quote : Quote)
    (size : Nat) (rest : List Char) :
    ∃ quote' : Quote, quote'.interpolated = quote.interpolated ∧ quote'.triple = quote.triple ∧
      Quote.opening quote size (letters ++ rest) =
        Quote.opening quote' (size + letters.length) rest := by
  induction letters generalizing quote size with
  | nil => exact ⟨quote, rfl, rfl, rfl⟩
  | cons c letters ih =>
    obtain ⟨hc, hletters⟩ := List.forall_mem_cons.mp h
    obtain ⟨next, hinterpolated, htriple, hnext⟩ : ∃ next : Quote,
        next.interpolated = quote.interpolated ∧ next.triple = quote.triple ∧
        Quote.opening quote size (c :: (letters ++ rest)) =
          Quote.opening next (size + 1) (letters ++ rest) := by
      have hcases : c = 'r' ∨ c = 'R' ∨ c = 'b' ∨ c = 'B' ∨ c = 'u' ∨ c = 'U' := by
        simpa [plainLetters] using hc
      rcases hcases with rfl | rfl | rfl | rfl | rfl | rfl
      · exact ⟨{ quote with raw := true }, rfl, rfl, rfl⟩
      · exact ⟨{ quote with raw := true }, rfl, rfl, rfl⟩
      · exact ⟨{ quote with bytes := true }, rfl, rfl, rfl⟩
      · exact ⟨{ quote with bytes := true }, rfl, rfl, rfl⟩
      · exact ⟨quote, rfl, rfl, rfl⟩
      · exact ⟨quote, rfl, rfl, rfl⟩
    obtain ⟨quote', hinterpolated', htriple', hquote'⟩ := ih hletters next (size + 1)
    refine ⟨quote', hinterpolated'.trans hinterpolated, htriple'.trans htriple, ?_⟩
    rw [List.cons_append, hnext, hquote', List.length_cons, Nat.add_assoc, Nat.add_comm 1]

/-- A quote opens a string of one line, unless it is followed by two more. -/
theorem opening_mark {mark d e : Char} (hmark : mark ∈ quoteMarks) (h : ¬ (d = mark ∧ e = mark))
    (quote : Quote) (size : Nat) (more : List Char) :
    Quote.opening quote size (mark :: d :: e :: more) =
      some ({ quote with delimiter := mark }, size + 1) := by
  have hcases : mark = '"' ∨ mark = '\'' ∨ mark = '`' := by simpa [quoteMarks] using hmark
  rcases hcases with rfl | rfl | rfl
  · simp [Quote.opening, h]
  · simp [Quote.opening, h]
  · simp [Quote.opening]

/-- **The opening of a plain string** with more text behind it. -/
theorem opening?_plain {mark c : Char} {body : List Char} {t : String} (more : List Char)
    (ht : IsPlainString mark body t) (h : ¬ (body = [] ∧ c = mark)) :
    ∃ (q : Quote) (n : Nat), Quote.opening? (t.toList ++ c :: more) = some (q, n) ∧
      (t.toList ++ c :: more).drop n = body ++ mark :: c :: more ∧
      q.delimiter = mark ∧ q.interpolated = false ∧ q.triple = false := by
  obtain ⟨letters, htext, hletters, hmark, hbody⟩ := ht
  have htail : t.toList ++ c :: more = letters ++ mark :: (body ++ mark :: c :: more) := by
    simp [htext]
  obtain ⟨quote, hinterpolated, htriple, hquote⟩ :=
    opening_letters hletters ⟨'"', false, false, false, false⟩ 0
      (mark :: (body ++ mark :: c :: more))
  refine ⟨{ quote with delimiter := mark }, 0 + letters.length + 1, ?_, ?_, rfl, hinterpolated,
    htriple⟩
  · rw [htail, Quote.opening?, hquote]
    match body, h, hbody with
    | [], h, _ => exact opening_mark hmark (by simpa using h) _ _ _
    | [b], _, hbody => exact opening_mark hmark (by simp_all) _ _ _
    | b :: b' :: body, _, hbody => exact opening_mark hmark (by simp_all) _ _ _
  · rw [htail, Nat.zero_add, ← List.drop_drop, List.drop_left]
    rfl

theorem passes_commentRun {cs : List Char} (h : commentRun cs ≠ 0) :
    Passes [] cs (cs.drop (commentRun cs)) := by
  rw [commentRun.eq_def] at h ⊢
  split at h
  · rename_i rest
    rw [Nat.add_comm, List.drop_succ_cons, drop_length_takeWhile]
    generalize hp : (fun c : Char => decide (c ≠ '\n') && decide (c ≠ '\x00')) = p
    have hbody : ∀ c ∈ rest.takeWhile p, c ≠ '\n' ∧ c ≠ '\x00' := by
      intro c hc
      subst hp
      simpa using List.all_eq_true.mp List.all_takeWhile c hc
    have hend : ∀ c ∈ (rest.dropWhile p).head?, c = '\n' ∨ c = '\x00' := by
      intro c hc
      have hstop := List.head?_dropWhile_not p rest
      rw [Option.mem_def.mp hc] at hstop
      subst hp
      simpa [imp_iff_not_or] using hstop
    have hpasses := Passes.comment hbody hend .done
    rwa [List.takeWhile_append_dropWhile] at hpasses
  · contradiction

theorem isLineJoin_take_lineJoinRun {cs : List Char} (h : lineJoinRun cs ≠ 0) :
    IsLineJoin (String.ofList (cs.take (lineJoinRun cs))) := by
  rw [lineJoinRun.eq_def] at h ⊢
  split at h
  · decide
  · exact (by decide : IsLineJoin "\\\n")
  · exact (by decide : IsLineJoin "\\\x00")
  · exact (by decide : IsLineJoin "\\\r\n")
  · contradiction

/-- A comment or line join in front of a token is a gap; a line join is listed. -/
theorem passes_of_extraAt {r s : Reader} {extra : Expr} (h : extraAt r = some (extra, s)) :
    Passes extra.lexemes r.rest s.rest ∧ ∀ t ∈ extra.lexemes, IsLineJoin t := by
  rw [extraAt] at h
  dsimp only at h
  split at h
  · split at h
    · contradiction
    · rename_i hjoin
      obtain ⟨rfl, rfl⟩ := Prod.mk.inj (Option.some.inj h)
      have htext : r.textTo (r.advance (lineJoinRun r.rest)) =
          String.ofList (r.rest.take (lineJoinRun r.rest)) := by
        rw [← String.toList_inj, Reader.textTo_advance, String.toList_ofList]
      have hlexeme := isLineJoin_take_lineJoinRun hjoin
      rw [Expr.lexemes_leaf (by decide), htext, Reader.rest_advance]
      refine ⟨?_, by simpa using hlexeme⟩
      have hpasses : Passes [_] ((String.ofList (r.rest.take (lineJoinRun r.rest))).toList ++
          r.rest.drop (lineJoinRun r.rest)) (r.rest.drop (lineJoinRun r.rest)) :=
        .single (.lineJoin hlexeme)
      rwa [String.toList_ofList, List.take_append_drop] at hpasses
  · rename_i hcomment
    obtain ⟨rfl, rfl⟩ := Prod.mk.inj (Option.some.inj h)
    rw [Expr.lexemes, Reader.rest_advance]
    exact ⟨passes_commentRun hcomment, by simp⟩

end Stub

/-! ### Looking ahead -/

/-- The text opens a string of the kind `q` in front of `behind`. -/
def Quote.Opens (q : Quote) (text : String) (behind : List Char) : Prop :=
  ∃ n, Quote.opening? (text.toList ++ behind) = some (q, n) ∧
    behind = (text.toList ++ behind).drop n

namespace Peek

/-- What holds of a token `p` that lies ahead of the reader `r`. -/
structure Ahead (p : Peek) (r : Reader) : Prop where
  lineJoins : ∀ t ∈ Expr.lexemesAll p.extras, IsLineJoin t
  before : Passes (Expr.lexemesAll p.extras) r.rest p.before.rest
  text : Passes [] p.before.rest (p.text.toList ++ p.after.rest)
  token : p.token.WrittenAs p.text
  opening : ∀ q, p.token = .quote q → q.Opens p.text p.after.rest

end Peek

namespace Stub

theorem textTo_advance_append (r : Reader) (n : Nat) :
    (r.textTo (r.advance n)).toList ++ (r.advance n).rest = r.rest := by
  rw [r.textTo_advance, Reader.rest_advance, List.take_append_drop]

theorem rest_mark {e : Expect} {r s : Reader} {gap : Gap} {mark : Mark}
    (h : r.mark e gap = some (mark, s)) : s.rest = r.rest := by
  unfold Reader.mark at h
  split_ifs at h
  all_goals
    obtain ⟨-, rfl⟩ := Prod.mk.inj (Option.some.inj h)
    rfl

/-- A string opens behind a gap without comments. -/
theorem passes_of_quoteAt {e : Expect} {r start s : Reader} {gap : Gap} {quote : Quote}
    (hgap : r.gap e = some gap) (h : quoteAt e r gap = some (quote, start, s)) :
    Passes [] r.rest ((start.textTo s).toList ++ s.rest) ∧ IsQuoted (start.textTo s) ∧
      quote.Opens (start.textTo s) s.rest := by
  unfold quoteAt at h
  split_ifs at h with hcond
  split at h
  · rename_i q n hopening
    obtain ⟨rfl, hpair⟩ := Prod.mk.inj (Option.some.inj h)
    obtain ⟨rfl, rfl⟩ := Prod.mk.inj hpair
    have hcomment : gap.comment = none := by simpa using (Bool.and_eq_true_iff.mp hcond).2
    have hne : gap.rest ≠ [] := by
      intro hnil
      simp [hnil, Quote.opening?, Quote.opening] at hopening
    obtain ⟨k, hk, hrest⟩ := rest_of_scanGap hgap
    obtain ⟨m, rfl, hquoted⟩ := opening_eq_some hopening
    have hpasses := passes_of_scanGap hgap (by decide) hcomment hne
    have hstart : (r.advance gap.size).rest = gap.rest := by
      rw [Reader.rest_advance, hrest, hk, Nat.zero_add]
    generalize r.advance gap.size = start at hstart
    -- the mark of an open string does not change where the reader stands
    show Passes [] r.rest ((start.textTo (start.advance (0 + m))).toList ++
      (start.advance (0 + m)).rest) ∧ IsQuoted (start.textTo (start.advance (0 + m))) ∧
        q.Opens (start.textTo (start.advance (0 + m))) (start.advance (0 + m)).rest
    have htext : start.textTo (start.advance (0 + m)) = String.ofList (gap.rest.take m) := by
      rw [← String.toList_inj, Reader.textTo_advance, String.toList_ofList, hstart, Nat.zero_add]
    rw [Quote.Opens, textTo_advance_append, hstart, htext]
    exact ⟨hpasses, hquoted, _, hopening, by rw [Reader.rest_advance, hstart]⟩
  · contradiction

theorem ahead_look {e : Expect} {extras : List Expr} {r₀ r : Reader} (fuel : Nat)
    (hjoins : ∀ t ∈ Expr.lexemesAll extras.reverse, IsLineJoin t)
    (hbefore : Passes (Expr.lexemesAll extras.reverse) r₀.rest r.rest) :
    (look e extras r fuel).Ahead r₀ := by
  induction fuel generalizing extras r with
  | zero => exact ⟨hjoins, hbefore, .done, .invalid, nofun⟩
  | succ fuel ih =>
    rw [look]
    dsimp only
    split
    · rename_i mark s hmark
      obtain ⟨gap, -, hmark⟩ := Option.bind_eq_some_iff.mp hmark
      refine ⟨hjoins, hbefore, ?_, .mark, nofun⟩
      show Passes [] r.rest s.rest
      rw [rest_mark hmark]
      exact .done
    · split
      · rename_i quote start s hquote
        obtain ⟨gap, hgap, hquote⟩ := Option.bind_eq_some_iff.mp hquote
        obtain ⟨hpasses, hquoted, hopening⟩ := passes_of_quoteAt hgap hquote
        refine ⟨hjoins, hbefore, hpasses, .quote hquoted, ?_⟩
        rintro q hq
        obtain rfl : quote = q := by simpa using hq
        exact hopening
      · have hblanks := Passes.dropWhile_isBlank r.rest
        rw [← Reader.rest_skipWhile] at hblanks
        split
        · rename_i extra s hextra
          obtain ⟨hpasses, hjoin⟩ := passes_of_extraAt hextra
          apply ih
          · simp only [List.reverse_cons, Expr.lexemesAll_append, Expr.lexemesAll_cons,
              Expr.lexemesAll_nil, List.append_nil, List.forall_mem_append]
            exact ⟨hjoins, hjoin⟩
          · simpa using hbefore.trans (hblanks.gap hpasses)
        · refine ⟨hjoins, hbefore, ?_, ?_, fun q hq => absurd hq (plainToken_ne_quote _ q)⟩
          · simp only [tokenAt, textTo_advance_append]
            exact hblanks
          · have htext := Reader.textTo_advance (r.skipWhile Stub.isBlank)
              (plainToken (r.skipWhile Stub.isBlank).rest).2
            simp only [tokenAt]
            rw [← String.ofList_toList (s := Reader.textTo _ _), htext]
            exact writtenAs_plainToken _

end Stub

theorem Reader.ahead_peek (e : Expect) (r : Reader) : (r.peek e).Ahead r :=
  Stub.ahead_look _ (by simp) .done

namespace Peek

@[simp] theorem lexemes_leaf (p : Peek) : p.leaf.lexemes = [p.text] :=
  Expr.lexemes_leaf (by decide) _ _

@[simp] theorem lexemes_nameLeaf (p : Peek) : (Rule.nameLeaf p).lexemes = [p.text] :=
  Expr.lexemes_leaf (by decide) _ _

@[simp] theorem lexemesAll_pieces (p : Peek) :
    Expr.lexemesAll p.pieces = Expr.lexemesAll p.extras ++ [p.text] := by
  simp [pieces]

theorem isSome_of_isOperator {p : Peek} {text : String} (h : p.isOperator text = true) :
    p.token.lexeme?.isSome = true := by
  rw [show p.token = .operator text by simpa [isOperator] using h]
  rfl

theorem isSome_of_isWord {p : Peek} {text : String} (h : p.isWord text = true) :
    p.token.lexeme?.isSome = true := by
  rw [show p.token = .word text by simpa [isWord] using h]
  rfl

end Peek

namespace Peek.Ahead

variable {p : Peek} {r : Reader}

theorem passes_before (h : p.Ahead r) : Passes [] r.rest p.before.rest :=
  h.before.of_lineJoins h.lineJoins

theorem passes_text (h : p.Ahead r) : Passes [] r.rest (p.text.toList ++ p.after.rest) :=
  h.passes_before.gap h.text

theorem suffix (h : p.Ahead r) : p.after.rest <:+ r.rest :=
  (List.suffix_append _ _).trans h.passes_text.suffix

theorem leaf_before (h : p.Ahead r) (ht : p.token.lexeme?.isSome = true) :
    Passes [p.text] p.before.rest p.after.rest :=
  h.text.gap (.single (h.token.lexeme ht))

/-- The token, without the line joins in front of it. -/
theorem leaf (h : p.Ahead r) (ht : p.token.lexeme?.isSome = true) :
    Passes [p.text] r.rest p.after.rest := h.passes_before.gap (h.leaf_before ht)

/-- The token, with the line joins in front of it. -/
theorem pieces (h : p.Ahead r) (ht : p.token.lexeme?.isSome = true) :
    Passes (Expr.lexemesAll p.pieces) r.rest p.after.rest := by
  rw [lexemesAll_pieces]
  exact h.before.trans (h.leaf_before ht)

end Peek.Ahead

end StubLayers
