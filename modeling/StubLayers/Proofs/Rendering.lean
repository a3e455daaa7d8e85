import StubLayers.Proofs.Names
import StubLayers.Proofs.Published

/-!
# Reading locations back

A location is written without any quoting: the file, which may hold colons, minus signs, digits and
`#L` of its own, and behind it numbers of any length.  This file reads it back from its end.

* `sign_toString_inj`: the number at the end of a text, the sign in front of it and the rest, if
  the sign is none that numbers are written with.
* `minus_toString_inj`: the same for the minus sign between two numbers.  The number behind it may
  have a minus sign of its own, but the one in front of it ends in a digit.
* `render_inj`: a place has one location.
* `address_inj`: an address has one start and one line.
* `IsPublished`: the file is shown by its address.
* `resolve_read_back`: what is shown tells the file and the line, and a place tells everything.
-/

namespace StubLayers.Location

/-! ### Numbers -/

/-- A number is a sign, perhaps, and digits. -/
theorem toList_toString (n : Int) :
    (toString n).toList = (if n < 0 then ['-'] else []) ++ Nat.toDigits 10 n.natAbs := by
  rw [Int.toString_eq_repr, Int.repr_eq_if]
  by_cases hn : n < 0
  · rw [if_neg (by omega), if_pos hn, String.toList_append, Nat.toList_repr,
      show (-n).toNat = n.natAbs by omega]
    rfl
  · rw [if_pos (by omega), if_neg hn, Nat.toList_repr, show n.toNat = n.natAbs by omega]
    rfl

theorem minus_notMem_toDigits (n : Nat) : '-' ∉ Nat.toDigits 10 n := fun h =>
  absurd (Nat.isDigit_of_mem_toDigits (by decide) (by decide) h) (by decide)

/-- No minus sign stands inside a number. -/
theorem eq_nil_of_minus {n : Int} {front back : List Char}
    (h : (toString n).toList = front ++ '-' :: back) : front = [] := by
  cases front with
  | nil => rfl
  | cons c front =>
    refine absurd ?_ (minus_notMem_toDigits n.natAbs)
    have hminus : '-' ∈ front ++ '-' :: back := List.mem_append_right front List.mem_cons_self
    rw [toList_toString, List.cons_append] at h
    split at h
    · have hdigits : Nat.toDigits 10 n.natAbs = front ++ '-' :: back := (List.cons.inj h).2
      exact hdigits ▸ hminus
    · rw [List.nil_append] at h
      exact h ▸ List.mem_cons_of_mem c hminus

/-- No minus sign stands at the end of a number. -/
theorem append_toString_ne_minus (front back : List Char) (n : Int) :
    front ++ (toString n).toList ≠ back ++ ['-'] := by
  intro h
  have hlast := congrArg List.getLast? h
  rw [toList_toString, ← List.append_assoc, List.getLast?_append, List.getLast?_concat,
    List.getLast?_eq_some_getLast Nat.toDigits_ne_nil, Option.some_or, Option.some.injEq] at hlast
  exact minus_notMem_toDigits _ (hlast ▸ List.getLast_mem Nat.toDigits_ne_nil)

theorem natAbs_eq_of_toDigits {n m : Int}
    (h : Nat.toDigits 10 n.natAbs = Nat.toDigits 10 m.natAbs) : n.natAbs = m.natAbs := by
  have hvalue := congrArg (Nat.ofDigitChars 10 · 0) h
  simpa [Nat.ofDigitChars_toDigits] using hvalue

/-- **A number is written in one way.** -/
theorem toString_inj {n m : Int} (h : (toString n).toList = (toString m).toList) : n = m := by
  rw [toList_toString, toList_toString] at h
  split at h <;> split at h
  · have habs := natAbs_eq_of_toDigits (List.append_cancel_left h)
    omega
  · exact absurd (h ▸ List.mem_append_left _ List.mem_cons_self) (minus_notMem_toDigits _)
  · exact absurd (h ▸ List.mem_append_left _ List.mem_cons_self) (minus_notMem_toDigits _)
  · have habs := natAbs_eq_of_toDigits (List.append_cancel_left h)
    omega

/-! ### Numbers at the end of a text -/

theorem notMem_toString {c : Char} (hc : isNumeral c = false) (n : Int) :
    c ∉ (toString n).toList := by
  intro hmem
  rw [isNumeral_of_mem_toString hmem] at hc
  exact absurd hc (by decide)

/-- The number at the end of a text, behind a sign that numbers are not written with. -/
theorem sign_toString_inj {c d : Char} (hc : isNumeral c = false) (hd : isNumeral d = false)
    {front front' : List Char} {n m : Int}
    (h : front ++ c :: (toString n).toList = front' ++ d :: (toString m).toList) :
    front = front' ∧ c = d ∧ n = m := by
  obtain ⟨hfront, hsign, hnumber⟩ :=
    append_cons_inj (notMem_toString hd n) (notMem_toString hc m) h
  exact ⟨hfront, hsign, toString_inj hnumber⟩

/-- If one front is longer than the other, its end is the sign of a number, not a number. -/
theorem eq_nil_of_longer {front more : List Char} {k n : Int} {back : List Char}
    (hfront : ∃ before, before ++ (toString k).toList = front ++ more)
    (h : '-' :: (toString n).toList = more ++ '-' :: back) : more = [] := by
  cases more with
  | nil => rfl
  | cons c more =>
    obtain ⟨rfl, hnumber⟩ := List.cons.inj h
    obtain rfl := eq_nil_of_minus hnumber
    obtain ⟨before, hbefore⟩ := hfront
    exact absurd hbefore (append_toString_ne_minus before front k)

/-- The number at the end of a text, behind a minus sign that follows a number. -/
theorem minus_toString_inj {front front' : List Char} {c d : Char} {k k' n m : Int}
    (h : (front ++ c :: (toString k).toList) ++ '-' :: (toString n).toList =
      (front' ++ d :: (toString k').toList) ++ '-' :: (toString m).toList) :
    front ++ c :: (toString k).toList = front' ++ d :: (toString k').toList ∧ n = m := by
  rcases List.append_eq_append_iff.mp h with ⟨more, hmore, hback⟩ | ⟨more, hmore, hback⟩
  · obtain rfl := eq_nil_of_longer ⟨front' ++ [d], (List.append_cons ..).symm.trans hmore⟩ hback
    exact ⟨by rw [hmore, List.append_nil], toString_inj (List.cons.inj hback).2⟩
  · obtain rfl := eq_nil_of_longer ⟨front ++ [c], (List.append_cons ..).symm.trans hmore⟩ hback
    exact ⟨by rw [hmore, List.append_nil], (toString_inj (List.cons.inj hback).2).symm⟩

/-! ### Places and addresses -/

theorem toList_render (l : Location) :
    l.render.toList =
      (((l.file.toList ++ ':' :: (toString l.startLine).toList) ++
        ':' :: (toString l.startCol).toList) ++ '-' :: (toString l.endLine).toList) ++
          ':' :: (toString l.endCol).toList := by
  simp [render]

/-- **A place has one location.** -/
theorem render_inj {l m : Location} (h : l.render = m.render) : l = m := by
  have hlist := congrArg String.toList h
  rw [toList_render, toList_render] at hlist
  obtain ⟨hlist, -, hendCol⟩ := sign_toString_inj (by decide) (by decide) hlist
  obtain ⟨hlist, hendLine⟩ := minus_toString_inj hlist
  obtain ⟨hlist, -, hstartCol⟩ := sign_toString_inj (by decide) (by decide) hlist
  obtain ⟨hfile, -, hstartLine⟩ := sign_toString_inj (by decide) (by decide) hlist
  rw [String.toList_inj] at hfile
  cases l
  cases m
  simp only at hfile hstartLine hstartCol hendLine hendCol
  subst hfile hstartLine hstartCol hendLine hendCol
  rfl

/-- **An address has one start and one line.** -/
theorem address_inj {start start' : String} {n m : Int}
    (h : start ++ "#L" ++ toString n = start' ++ "#L" ++ toString m) : start = start' ∧ n = m := by
  have hlist : (start.toList ++ ['#']) ++ 'L' :: (toString n).toList =
      (start'.toList ++ ['#']) ++ 'L' :: (toString m).toList := by
    simpa using congrArg String.toList h
  obtain ⟨hstart, -, hnumber⟩ := sign_toString_inj (by decide) (by decide) hlist
  exact ⟨String.toList_inj.mp (List.append_cancel_right hstart), hnumber⟩

/-! ### What is shown -/

/-- The file is shown by its address: there is a prefix and an address for it, and the file begins
with that prefix. -/
def IsPublished (base url : Option String) (l : Location) : Prop :=
  ∃ b ∈ base, ∃ u ∈ url, b ≠ "" ∧ u ≠ "" ∧ b.toList <+: l.file.toList

theorem resolve_of_isPublished {base url : Option String} {l : Location}
    (h : l.IsPublished base url) :
    ∃ b u : String, base = some b ∧ url = some u ∧ ∃ more : List Char,
      l.file.toList = b.toList ++ more ∧
        l.resolve base url = u ++ String.ofList more ++ "#L" ++ toString l.startLine := by
  obtain ⟨b, rfl, u, rfl, hb, hu, more, hmore⟩ := h
  exact ⟨b, u, rfl, rfl, more, hmore.symm, l.resolve_of_prefix hb hu hmore.symm⟩

theorem resolve_of_not_isPublished {base url : Option String} {l : Location}
    (h : ¬ l.IsPublished base url) : l.resolve base url = l.render := by
  unfold resolve
  split
  · rw [if_neg]
    rintro ⟨hb, hu, hprefix⟩
    exact h ⟨_, rfl, _, rfl, hb, hu, List.isPrefixOf_iff_prefix.mp hprefix⟩
  · rfl

theorem resolve_ne_render {base url : Option String} {l : Location} (h : l.IsPublished base url)
    (m : Location) : l.resolve base url ≠ m.render := by
  obtain ⟨b, u, -, -, more, -, hresolve⟩ := resolve_of_isPublished h
  rw [hresolve]
  exact m.address_ne_render _ _

theorem IsPublished.of_file {base url : Option String} {l m : Location} (hfile : l.file = m.file)
    (h : l.IsPublished base url) : m.IsPublished base url := by
  rwa [IsPublished, ← hfile]

/-- Of two files that are shown by their addresses. -/
theorem resolve_eq_iff_of_isPublished {base url : Option String} {l m : Location}
    (hl : l.IsPublished base url) (hm : m.IsPublished base url) :
    l.resolve base url = m.resolve base url ↔ l.file = m.file ∧ l.startLine = m.startLine := by
  obtain ⟨b, u, rfl, rfl, more, hmore, hresolve⟩ := resolve_of_isPublished hl
  obtain ⟨b', u', hb, hu, more', hmore', hresolve'⟩ := resolve_of_isPublished hm
  obtain rfl := Option.some.inj hb
  obtain rfl := Option.some.inj hu
  rw [hresolve, hresolve']
  constructor
  · intro h
    obtain ⟨hstart, hline⟩ := address_inj h
    refine ⟨String.toList_inj.mp ?_, hline⟩
    rw [hmore, hmore', String.ofList_injective ((String.append_right_inj u).mp hstart)]
  · rintro ⟨hfile, hline⟩
    rw [hfile, hmore'] at hmore
    rw [hline, List.append_cancel_left hmore]

/-- **Locations can be read back.**  For one prefix and one address, two locations are shown alike
exactly if they are in the same file and start on the same line, and, unless that file is shown by
its address, are the same throughout.  An address is never the text of any place. -/
theorem resolve_read_back (base url : Option String) (l m : Location) :
    (l.resolve base url = m.resolve base url ↔
      l.file = m.file ∧ l.startLine = m.startLine ∧ (¬ l.IsPublished base url → l = m)) ∧
    (¬ l.IsPublished base url → l.resolve base url = l.render) ∧
    (l.IsPublished base url → ∀ place : Location, l.resolve base url ≠ place.render) := by
  refine ⟨⟨fun h => ?_, ?_⟩, resolve_of_not_isPublished, resolve_ne_render⟩
  · by_cases hl : l.IsPublished base url <;> by_cases hm : m.IsPublished base url
    · obtain ⟨hfile, hline⟩ := (resolve_eq_iff_of_isPublished hl hm).mp h
      exact ⟨hfile, hline, absurd hl⟩
    · rw [resolve_of_not_isPublished hm] at h
      exact absurd h (resolve_ne_render hl m)
    · rw [resolve_of_not_isPublished hl] at h
      exact absurd h.symm (resolve_ne_render hm l)
    · rw [resolve_of_not_isPublished hl, resolve_of_not_isPublished hm] at h
      obtain rfl := render_inj h
      exact ⟨rfl, rfl, fun _ => rfl⟩
  · rintro ⟨hfile, hline, hsame⟩
    by_cases hl : l.IsPublished base url
    · exact (resolve_eq_iff_of_isPublished hl (hl.of_file hfile)).mpr ⟨hfile, hline⟩
    · rw [hsame hl]

end StubLayers.Location
