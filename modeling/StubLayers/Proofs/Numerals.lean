import Mathlib.Data.List.Basic
import StubLayers.Stub.Token

/-!
# Numbers as they are written

The scanner measures numbers by runs; this file says which texts such a run may be, and when one
number is the beginning of another.

* `IsNumeral`: a number with the mark of a base, or a decimal one with a point, an exponent and a
  letter behind it.
* `isNumeral_of_numberRun`: what the scanner takes for a number is one.
* `IsNumeral.extended`: a number goes on as a longer one only with a character of a name or, as long
  as it is made of digits, with a point.
-/

namespace StubLayers

open Stub Text

/-- What a test says of the characters of a list.  Characters are finitely many, and `decide` alone
may go through all of them. -/
theorem forall_mem_of_all {P : Char → Prop} [DecidablePred P] {cs : List Char}
    (h : cs.all (fun c => decide (P c)) = true) : ∀ c ∈ cs, P c := by
  simpa using h

/-! ### What a number is -/

/-- Digits and underscores. -/
def IsDigits (ds : List Char) : Prop := ∀ d ∈ ds, d.isDigit = true ∨ d = '_'

def StartsWithDigit (cs : List Char) : Prop := ∃ d rest, cs = d :: rest ∧ d.isDigit = true

/-- The part of a decimal number before its exponent. -/
inductive IsMantissa : List Char → Prop
  | whole {ds : List Char} : StartsWithDigit ds → IsDigits ds → IsMantissa ds
  | pointed {ds places : List Char} : (ds = [] → StartsWithDigit places) →
      (ds ≠ [] → StartsWithDigit ds) → IsDigits ds → IsDigits places →
      IsMantissa (ds ++ '.' :: places)

inductive IsExponent : List Char → Prop
  | absent : IsExponent []
  | unsigned {mark : Char} {ds : List Char} : mark ∈ ['e', 'E'] → ds ≠ [] → IsDigits ds →
      IsExponent (mark :: ds)
  | signed {mark sign : Char} {ds : List Char} : mark ∈ ['e', 'E'] → sign ∈ ['+', '-'] →
      ds ≠ [] → IsDigits ds → IsExponent (mark :: sign :: ds)

/-- A number as it is written: with the mark of a base, or decimal. -/
inductive IsNumeral : List Char → Prop
  | based {mark : Char} {digits : List Char} : mark ∈ ['x', 'X', 'o', 'O', 'b', 'B'] →
      (∀ d ∈ digits, isNameContinue d = true) → IsNumeral ('0' :: mark :: digits)
  | decimal {mantissa exponent suffix : List Char} : IsMantissa mantissa → IsExponent exponent →
      (∀ c ∈ suffix, c ∈ ['L', 'l', 'j', 'J']) → IsNumeral (mantissa ++ exponent ++ suffix)

theorem isDigits_take_digitRun (after : Bool) (cs : List Char) :
    IsDigits (cs.take (digitRun after cs)) := by
  induction cs generalizing after with
  | nil =>
    intro d hd
    simp at hd
  | cons c cs ih =>
    intro d hd
    rw [digitRun] at hd
    split at hd
    · rename_i hc
      rw [List.take_succ_cons, List.mem_cons] at hd
      rcases hd with rfl | hd
      · exact Or.inl hc
      · exact ih true d hd
    · split at hd
      · rename_i hc
        rw [List.take_succ_cons, List.mem_cons] at hd
        rcases hd with rfl | hd
        · exact Or.inr (by simpa using (Bool.and_eq_true_iff.mp hc).2)
        · exact ih false d hd
      · simp at hd

theorem startsWithDigit_take_digitRun {cs : List Char} (h : digitRun false cs ≠ 0) :
    StartsWithDigit (cs.take (digitRun false cs)) := by
  cases cs with
  | nil => exact absurd rfl h
  | cons c cs =>
    rw [digitRun] at h ⊢
    by_cases hc : c.isDigit = true
    · rw [if_pos hc, List.take_succ_cons]
      exact ⟨c, _, rfl, hc⟩
    · rw [if_neg hc] at h
      simp at h

theorem StartsWithDigit.ne_nil {cs : List Char} (h : StartsWithDigit cs) : cs ≠ [] := by
  obtain ⟨d, rest, rfl, -⟩ := h
  exact List.cons_ne_nil d rest

theorem oneOf_cons (allowed : List Char) (c : Char) (cs : List Char) :
    oneOf allowed (c :: cs) = if c ∈ allowed then 1 else 0 := by
  simp [oneOf]

theorem mem_of_mem_take_oneOf {allowed cs : List Char} {c : Char}
    (h : c ∈ cs.take (oneOf allowed cs)) : c ∈ allowed := by
  cases cs with
  | nil => simp at h
  | cons d cs =>
    rw [oneOf_cons] at h
    split at h
    · rename_i hd
      obtain rfl : c = d := by simpa using h
      exact hd
    · simp at h

theorem isExponent_take_exponentRun (cs : List Char) :
    IsExponent (cs.take (exponentRun cs)) := by
  unfold exponentRun
  split
  · exact .absent
  · rename_i hmark
    dsimp only
    split
    · exact .absent
    · rename_i hrun
      cases cs with
      | nil => exact absurd rfl hmark
      | cons mark cs =>
        have hmem : mark ∈ ['e', 'E'] := by
          by_contra hnot
          exact hmark (by rw [oneOf_cons, if_neg hnot])
        rw [List.drop_succ_cons, List.drop_zero] at hrun ⊢
        have hdigits := isDigits_take_digitRun false ((mark :: cs).drop (1 + oneOf ['+', '-'] cs))
        have hne := (startsWithDigit_take_digitRun hrun).ne_nil
        rw [List.take_add]
        generalize digitRun false ((mark :: cs).drop (1 + oneOf ['+', '-'] cs)) = k at hdigits hne ⊢
        cases cs with
        | nil => exact .unsigned hmem hne hdigits
        | cons sign cs =>
          rw [oneOf_cons] at hdigits hne ⊢
          by_cases hsign : sign ∈ ['+', '-']
          · rw [if_pos hsign] at hdigits hne ⊢
            exact .signed hmem hsign hne hdigits
          · rw [if_neg hsign] at hdigits hne ⊢
            exact .unsigned hmem hne hdigits

/-- What stands behind the body of a fraction. -/
theorem isNumeral_take_add_oneOf {cs : List Char} {n : Nat} {mantissa exponent : List Char}
    (hbody : cs.take n = mantissa ++ exponent) (hmantissa : IsMantissa mantissa)
    (hexponent : IsExponent exponent) {allowed : List Char}
    (hallowed : ∀ c ∈ allowed, c ∈ ['L', 'l', 'j', 'J']) :
    IsNumeral (cs.take (n + oneOf allowed (cs.drop n))) := by
  rw [List.take_add, hbody]
  exact .decimal hmantissa hexponent fun c hc => hallowed c (mem_of_mem_take_oneOf hc)

theorem take_fractionBody {cs : List Char} (h : fractionBody cs ≠ 0) :
    ∃ mantissa exponent, cs.take (fractionBody cs) = mantissa ++ exponent ∧
      IsMantissa mantissa ∧ IsExponent exponent := by
  have hdigits := isDigits_take_digitRun false cs
  have hstart : digitRun false cs ≠ 0 → StartsWithDigit (cs.take (digitRun false cs)) :=
    startsWithDigit_take_digitRun
  rw [fractionBody] at h ⊢
  dsimp only at h ⊢
  generalize digitRun false cs = whole at h hdigits hstart ⊢
  split at h
  · rename_i more hmore
    split at h
    · contradiction
    · rename_i hzero
      refine ⟨cs.take whole ++ '.' :: more.take (digitRun false more), _, ?_, ?_,
        isExponent_take_exponentRun (more.drop (digitRun false more))⟩
      · rw [if_neg hzero, Nat.add_assoc, Nat.add_assoc, List.take_add, hmore, Nat.add_comm 1,
          List.take_succ_cons, List.take_add, List.append_assoc, List.cons_append]
      · refine .pointed ?_ ?_ hdigits (isDigits_take_digitRun false more)
        · intro hnil
          apply startsWithDigit_take_digitRun
          intro hplaces
          have hwhole : whole ≠ 0 := fun hwhole => hzero (by simp [hwhole, hplaces])
          exact (hstart hwhole).ne_nil hnil
        · intro hne
          apply hstart
          rintro rfl
          exact hne rfl
  · rename_i rest hrest
    split at h
    · contradiction
    · split at h
      · contradiction
      · rename_i n hn hwhole
        refine ⟨cs.take whole, _, ?_, .whole (hstart hwhole) hdigits,
          isExponent_take_exponentRun (cs.drop whole)⟩
        rw [if_neg hwhole, List.take_add]

theorem isNumeral_take_fractionRun {cs : List Char} (h : fractionRun cs ≠ 0) :
    IsNumeral (cs.take (fractionRun cs)) := by
  rw [fractionRun] at h ⊢
  split at h
  · contradiction
  · rename_i hbody
    obtain ⟨mantissa, exponent, htake, hmantissa, hexponent⟩ := take_fractionBody hbody
    exact isNumeral_take_add_oneOf htake hmantissa hexponent (forall_mem_of_all (by decide))

theorem isNumeral_take_wholeRun {cs : List Char} (h : wholeRun cs ≠ 0) :
    IsNumeral (cs.take (wholeRun cs)) := by
  rw [wholeRun] at h ⊢
  split at h
  · contradiction
  · rename_i hdigits
    exact isNumeral_take_add_oneOf (List.append_nil _).symm
      (.whole (startsWithDigit_take_digitRun hdigits) (isDigits_take_digitRun false cs)) .absent
      (fun _ hc => hc)

/-! ### Numbers with the mark of a base -/

theorem isNameContinue_of_isDigit {c : Char} (h : c.isDigit = true) : isNameContinue c = true := by
  simp [isNameContinue, h]

/-- The letters are those of two ranges. -/
theorem isAlpha_iff {c : Char} :
    c.isAlpha = true ↔ 'A' ≤ c ∧ c ≤ 'Z' ∨ 'a' ≤ c ∧ c ≤ 'z' := by
  have hupper : c.isUpper = true ↔ 'A' ≤ c ∧ c ≤ 'Z' :=
    decide_eq_true_iff (p := c.val ≥ 'A'.val ∧ c.val ≤ 'Z'.val)
  have hlower : c.isLower = true ↔ 'a' ≤ c ∧ c ≤ 'z' :=
    Bool.and_eq_true_iff.trans (and_congr decide_eq_true_iff decide_eq_true_iff)
  rw [← hupper, ← hlower]
  exact Bool.or_eq_true_iff

theorem isAlpha_of_between {c : Char} (h : 'a' ≤ c ∧ c ≤ 'f' ∨ 'A' ≤ c ∧ c ≤ 'F') :
    c.isAlpha = true := by
  rw [isAlpha_iff]
  rcases h with ⟨hl, hr⟩ | ⟨hl, hr⟩
  · exact Or.inr ⟨hl, Nat.le_trans hr (by decide)⟩
  · exact Or.inl ⟨hl, Nat.le_trans hr (by decide)⟩

theorem isNameContinue_of_isHexDigit {c : Char} (h : isHexDigit c = true) :
    isNameContinue c = true := by
  rw [isHexDigit, Bool.or_eq_true, Bool.or_eq_true] at h
  rcases h with (h | h) | h
  · exact isNameContinue_of_isDigit h
  · have halpha : c.isAlpha = true := isAlpha_of_between (Or.inl (by simpa using h))
    simp [isNameContinue, isNameStart, halpha]
  · have halpha : c.isAlpha = true := isAlpha_of_between (Or.inr (by simpa using h))
    simp [isNameContinue, isNameStart, halpha]

theorem isHexDigit_of_between {c last : Char} (h : '0' ≤ c ∧ c ≤ last) (hlast : last ≤ '9') :
    isHexDigit c = true := by
  have hdigit : c.isDigit = true := by
    simp only [Char.isDigit, Bool.and_eq_true, decide_eq_true_eq]
    exact ⟨h.1, Nat.le_trans h.2 hlast⟩
  simp [isHexDigit, hdigit]

theorem mem_take_baseRun {digit : Char → Bool} {cs : List Char} {c : Char}
    (h : c ∈ cs.take (baseRun digit cs)) : digit c = true ∨ c = '_' := by
  induction cs with
  | nil => simp at h
  | cons d cs ih =>
    cases cs with
    | nil =>
      rw [baseRun] at h
      split at h
      · rename_i hd
        obtain rfl : c = d := by simpa using h
        exact Or.inl hd
      · simp at h
    | cons e cs =>
      rw [baseRun] at h
      split at h
      · rename_i hd
        rw [List.take_succ_cons, List.mem_cons] at h
        rcases h with rfl | h
        · exact Or.inl hd
        · exact ih h
      · split at h
        · rename_i hd
          rw [List.take_succ_cons, List.mem_cons] at h
          rcases h with rfl | h
          · exact Or.inr (by simpa using (Bool.and_eq_true_iff.mp hd).1)
          · exact ih h
        · simp at h

/-- The digits of every base are hexadecimal ones. -/
theorem baseDigit?_eq_some {mark : Char} {digit : Char → Bool} (h : baseDigit? mark = some digit) :
    mark ∈ ['x', 'X', 'o', 'O', 'b', 'B'] ∧ ∀ d, digit d = true → isHexDigit d = true := by
  rw [baseDigit?] at h
  split_ifs at h with hx ho hb
  · obtain rfl := Option.some.inj h
    refine ⟨?_, fun _ hd => hd⟩
    rcases (show mark = 'x' ∨ mark = 'X' by simpa using hx) with rfl | rfl <;> decide
  · obtain rfl := Option.some.inj h
    constructor
    · rcases (show mark = 'o' ∨ mark = 'O' by simpa using ho) with rfl | rfl <;> decide
    · intro d hd
      refine isHexDigit_of_between ?_ (show '7' ≤ '9' by decide)
      simpa [isOctalDigit] using hd
  · obtain rfl := Option.some.inj h
    constructor
    · rcases (show mark = 'b' ∨ mark = 'B' by simpa using hb) with rfl | rfl <;> decide
    · intro d hd
      rcases (show d = '0' ∨ d = '1' by simpa [isBinaryDigit] using hd) with rfl | rfl <;> decide

theorem isNumeral_take_basedRun {cs : List Char} (h : basedRun cs ≠ 0) :
    IsNumeral (cs.take (basedRun cs)) := by
  rw [basedRun.eq_def] at h ⊢
  split at h
  · rename_i mark rest
    split at h
    · rename_i digit hdigit
      obtain ⟨hmark, hhex⟩ := baseDigit?_eq_some hdigit
      split at h
      · contradiction
      · rw [Nat.add_assoc, Nat.add_comm 2]
        refine .based hmark fun d hd => ?_
        rw [List.take_add, List.mem_append] at hd
        rcases hd with hd | hd
        · rcases mem_take_baseRun hd with hd | rfl
          · exact isNameContinue_of_isHexDigit (hhex d hd)
          · decide
        · have hsuffix := mem_of_mem_take_oneOf hd
          rcases (show d = 'L' ∨ d = 'l' by simpa using hsuffix) with rfl | rfl <;> decide
    · contradiction
  · contradiction

theorem isNumeral_of_numberRun {cs : List Char} {n : Nat} {fraction : Bool}
    (h : numberRun cs = some (n, fraction)) : IsNumeral (cs.take n) := by
  have hwhole : max (basedRun cs) (wholeRun cs) ≠ 0 →
      IsNumeral (cs.take (max (basedRun cs) (wholeRun cs))) := by
    intro hne
    rcases Nat.le_total (basedRun cs) (wholeRun cs) with hle | hle
    · rw [Nat.max_eq_right hle] at hne ⊢
      exact isNumeral_take_wholeRun hne
    · rw [Nat.max_eq_left hle] at hne ⊢
      exact isNumeral_take_basedRun hne
  rw [numberRun] at h
  split at h
  · contradiction
  · rename_i hne
    cases h
    exact hwhole hne
  · rename_i hfraction _
    have hpos : 0 < fractionRun cs := Nat.pos_of_ne_zero hfraction
    split at h
    · cases h
      exact isNumeral_take_fractionRun hfraction
    · rename_i hle
      cases h
      exact hwhole (by omega)

/-! ### Numbers that go on -/

theorem IsMantissa.of_mem {mantissa : List Char} (h : IsMantissa mantissa) {c : Char}
    (hc : c ∈ mantissa) : c.isDigit = true ∨ c = '_' ∨ c = '.' := by
  cases h with
  | whole _ hdigits =>
    rcases hdigits c hc with h | h
    · exact Or.inl h
    · exact Or.inr (Or.inl h)
  | pointed _ _ hdigits hplaces =>
    rw [List.mem_append, List.mem_cons] at hc
    rcases hc with hc | rfl | hc
    · rcases hdigits c hc with h | h
      · exact Or.inl h
      · exact Or.inr (Or.inl h)
    · exact Or.inr (Or.inr rfl)
    · rcases hplaces c hc with h | h
      · exact Or.inl h
      · exact Or.inr (Or.inl h)

theorem IsDigits.isNameContinue {ds : List Char} (h : IsDigits ds) {c : Char} (hc : c ∈ ds) :
    isNameContinue c = true := by
  rcases h c hc with hc | rfl
  · exact isNameContinue_of_isDigit hc
  · decide

theorem isNameContinue_of_mem {c : Char} {cs : List Char} (h : c ∈ cs)
    (hcs : cs.all isNameContinue = true) : isNameContinue c = true :=
  List.all_eq_true.mp hcs c h

theorem IsExponent.of_mem {exponent : List Char} (h : IsExponent exponent) {c : Char}
    (hc : c ∈ exponent) : isNameContinue c = true ∨ c = '+' ∨ c = '-' := by
  cases h with
  | absent => simp at hc
  | unsigned hmark _ hdigits =>
    rcases List.mem_cons.mp hc with rfl | hc
    · exact Or.inl (isNameContinue_of_mem hmark (by decide))
    · exact Or.inl (hdigits.isNameContinue hc)
  | signed hmark hsign _ hdigits =>
    rw [List.mem_cons, List.mem_cons] at hc
    rcases hc with rfl | rfl | hc
    · exact Or.inl (isNameContinue_of_mem hmark (by decide))
    · exact Or.inr (by simpa using hsign)
    · exact Or.inl (hdigits.isNameContinue hc)

theorem IsNumeral.of_mem {t : List Char} (h : IsNumeral t) {c : Char} (hc : c ∈ t) :
    isNameContinue c = true ∨ c = '.' ∨ c = '+' ∨ c = '-' := by
  cases h with
  | based hmark hdigits =>
    rw [List.mem_cons, List.mem_cons] at hc
    rcases hc with rfl | rfl | hc
    · exact Or.inl (by decide)
    · exact Or.inl (isNameContinue_of_mem hmark (by decide))
    · exact Or.inl (hdigits c hc)
  | decimal hmantissa hexponent hsuffix =>
    rw [List.mem_append, List.mem_append] at hc
    rcases hc with (hc | hc) | hc
    · rcases hmantissa.of_mem hc with h | rfl | rfl
      · exact Or.inl (isNameContinue_of_isDigit h)
      · exact Or.inl (by decide)
      · exact Or.inr (Or.inl rfl)
    · rcases hexponent.of_mem hc with h | h
      · exact Or.inl h
      · exact Or.inr (Or.inr h)
    · exact Or.inl (isNameContinue_of_mem (hsuffix c hc) (by decide))

/-- In front of a point stand digits only. -/
theorem IsNumeral.before_point {front back : List Char} (h : IsNumeral (front ++ '.' :: back)) :
    IsDigits front := by
  generalize ht : front ++ '.' :: back = t at h
  have hpoint : '.' ∈ t := ht ▸ by simp
  cases h with
  | based hmark hdigits =>
    exfalso
    rw [List.mem_cons, List.mem_cons] at hpoint
    rcases hpoint with h | rfl | h
    · exact absurd h (by decide)
    · exact absurd hmark (by decide)
    · exact absurd (hdigits _ h) (by decide)
  | @decimal mantissa exponent suffix hmantissa hexponent hsuffix =>
    have hexp : '.' ∉ exponent := by
      intro h
      rcases hexponent.of_mem h with h | h | h
      all_goals exact absurd h (by decide)
    have hsuf : '.' ∉ suffix := fun h => absurd (hsuffix _ h) (by decide)
    have hdig : ∀ {ds}, IsDigits ds → '.' ∉ ds := by
      intro ds hds h
      rcases hds _ h with h | h
      all_goals exact absurd h (by decide)
    cases hmantissa with
    | whole _ hds =>
      exfalso
      rw [List.mem_append, List.mem_append] at hpoint
      rcases hpoint with (h | h) | h
      · exact hdig hds h
      · exact hexp h
      · exact hsuf h
    | @pointed ds places _ _ hds hplaces =>
      rw [List.append_assoc, List.append_assoc, List.cons_append, eq_comm,
        List.append_cons_inj_of_notMem (hdig hds)] at ht
      · exact ht.1 ▸ hds
      · simp [hdig hplaces, hexp, hsuf]

/-- In front of a sign stands the mark of an exponent, behind digits and points. -/
theorem IsNumeral.before_sign {front back : List Char} {sign : Char} (hsign : sign ∈ ['+', '-'])
    (h : IsNumeral (front ++ sign :: back)) :
    ∃ mantissa mark, front = mantissa ++ [mark] ∧ mark ∈ ['e', 'E'] ∧
      ∀ c ∈ mantissa, c.isDigit = true ∨ c = '_' ∨ c = '.' := by
  have hsign_name : isNameContinue sign = false := by
    rcases (show sign = '+' ∨ sign = '-' by simpa using hsign) with rfl | rfl <;> decide
  have hsign_mantissa : ¬ (sign.isDigit = true ∨ sign = '_' ∨ sign = '.') := by
    rcases (show sign = '+' ∨ sign = '-' by simpa using hsign) with rfl | rfl <;> decide
  have hname : ∀ {cs : List Char}, (∀ c ∈ cs, isNameContinue c = true) → sign ∉ cs := by
    intro cs hcs hmem
    rw [hcs sign hmem] at hsign_name
    exact absurd hsign_name (by decide)
  generalize ht : front ++ sign :: back = t at h
  have hmem : sign ∈ t := ht ▸ by simp
  cases h with
  | based hmark hdigits =>
    refine absurd hmem (hname ?_)
    intro c hc
    rw [List.mem_cons, List.mem_cons] at hc
    rcases hc with rfl | rfl | hc
    · decide
    · exact isNameContinue_of_mem hmark (by decide)
    · exact hdigits c hc
  | @decimal mantissa exponent suffix hmantissa hexponent hsuffix =>
    have hman : sign ∉ mantissa := fun h => hsign_mantissa (hmantissa.of_mem h)
    have hsuf : sign ∉ suffix := hname fun c hc => isNameContinue_of_mem (hsuffix c hc) (by decide)
    cases hexponent with
    | absent => simp [hman, hsuf] at hmem
    | @unsigned mark ds hmark _ hds =>
      have hmk : sign ≠ mark := by
        rintro rfl
        exact absurd (isNameContinue_of_mem hmark (by decide)) (by simp [hsign_name])
      simp [hman, hsuf, hmk, hname fun _ => hds.isNameContinue] at hmem
    | @signed mark sign' ds hmark _ _ hds =>
      have hmk : sign ≠ mark := by
        rintro rfl
        exact absurd (isNameContinue_of_mem hmark (by decide)) (by simp [hsign_name])
      have hsplit : mantissa ++ mark :: sign' :: ds ++ suffix =
          (mantissa ++ [mark]) ++ sign' :: (ds ++ suffix) := by simp
      rw [hsplit, eq_comm, List.append_cons_inj_of_notMem (by simp [hman, hmk])
        (by simp [hsuf, hname fun _ => hds.isNameContinue])] at ht
      exact ⟨mantissa, mark, ht.1.symm, hmark, fun c hc => hmantissa.of_mem hc⟩

theorem mem_of_append_eq_append {l p q : List Char} {c : Char} (h : l ++ [c] = p ++ q)
    (hq : q ≠ []) : c ∈ q := by
  have hlast := congrArg List.getLast? h
  rw [List.getLast?_concat, List.getLast?_append_of_ne_nil _ hq] at hlast
  exact List.mem_of_getLast? hlast.symm

/-- No number ends with the mark of an exponent behind digits and points. -/
theorem IsNumeral.ne_marked {mantissa : List Char} {mark : Char} (hmark : mark ∈ ['e', 'E'])
    (hmantissa : ∀ c ∈ mantissa, c.isDigit = true ∨ c = '_' ∨ c = '.') :
    ¬ IsNumeral (mantissa ++ [mark]) := by
  have hmark_mantissa : ¬ (mark.isDigit = true ∨ mark = '_' ∨ mark = '.') := by
    rcases (show mark = 'e' ∨ mark = 'E' by simpa using hmark) with rfl | rfl <;> decide
  have hmark_digits : ∀ {ds : List Char}, IsDigits ds → mark ∉ ds := by
    intro ds hds hmem
    rcases hds mark hmem with h | h
    · exact hmark_mantissa (Or.inl h)
    · exact hmark_mantissa (Or.inr (Or.inl h))
  intro h
  generalize ht : mantissa ++ [mark] = t at h
  cases h with
  | @based base digits hbase _ =>
    have hdisjoint : ∀ c ∈ ['x', 'X', 'o', 'O', 'b', 'B'],
        c ∉ ['e', 'E'] ∧ ¬ (c.isDigit = true ∨ c = '_' ∨ c = '.') :=
      forall_mem_of_all (by decide)
    obtain ⟨hne, hnot⟩ := hdisjoint base hbase
    have hmem : base ∈ mantissa ++ [mark] := ht ▸ by simp
    rw [List.mem_append, List.mem_singleton] at hmem
    rcases hmem with hmem | rfl
    · exact hnot (hmantissa base hmem)
    · exact hne hmark
  | @decimal mantissa' exponent suffix hmantissa' hexponent hsuffix =>
    by_cases hsuf : suffix = []
    · subst hsuf
      rw [List.append_nil] at ht
      cases hexponent with
      | absent =>
        have hmem : mark ∈ mantissa' := by
          rw [List.append_nil] at ht
          rw [← ht]
          simp
        exact hmark_mantissa (hmantissa'.of_mem hmem)
      | unsigned _ hne hds =>
        rw [List.append_cons mantissa'] at ht
        exact hmark_digits hds (mem_of_append_eq_append ht hne)
      | signed _ _ hne hds =>
        rw [List.append_cons mantissa', List.append_cons (mantissa' ++ _)] at ht
        exact hmark_digits hds (mem_of_append_eq_append ht hne)
    · have hmem := hsuffix mark (mem_of_append_eq_append ht hsuf)
      have hdisjoint : ∀ c ∈ ['L', 'l', 'j', 'J'], c ∉ ['e', 'E'] := forall_mem_of_all (by decide)
      exact hdisjoint mark hmem hmark

/-- **How a number can go on.**  Where one number is the start of another, the next character is a
name character, or a point behind digits. -/
theorem IsNumeral.extended {t back : List Char} {c : Char} (h : IsNumeral t)
    (h' : IsNumeral (t ++ c :: back)) :
    isNameContinue c = true ∨ c = '.' ∧ IsDigits t := by
  rcases h'.of_mem (c := c) (by simp) with hc | rfl | hc
  · exact Or.inl hc
  · exact Or.inr ⟨rfl, h'.before_point⟩
  · obtain ⟨mantissa, mark, rfl, hmark, hmantissa⟩ := h'.before_sign (by simpa using hc)
    exact absurd h (IsNumeral.ne_marked hmark hmantissa)

theorem IsNumeral.head {t : List Char} (h : IsNumeral t) :
    ∃ c cs, t = c :: cs ∧ (c.isDigit = true ∨ c = '.' ∧ StartsWithDigit cs) := by
  cases h with
  | based _ _ => exact ⟨'0', _, rfl, Or.inl (by decide)⟩
  | decimal hmantissa _ _ =>
    cases hmantissa with
    | whole hstart _ =>
      obtain ⟨d, rest, rfl, hd⟩ := hstart
      exact ⟨d, _, rfl, Or.inl hd⟩
    | @pointed ds places hnil hcons _ _ =>
      cases ds with
      | nil =>
        obtain ⟨d, rest, rfl, hd⟩ := hnil rfl
        exact ⟨'.', _, rfl, Or.inr ⟨rfl, d, _, rfl, hd⟩⟩
      | cons d ds =>
        obtain ⟨d', rest, heq, hd⟩ := hcons (List.cons_ne_nil d ds)
        obtain ⟨rfl, rfl⟩ := List.cons.inj heq
        exact ⟨d, _, rfl, Or.inl hd⟩

end StubLayers
