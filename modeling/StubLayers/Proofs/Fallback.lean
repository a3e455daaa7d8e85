import StubLayers.Config.Load
import StubLayers.Proofs.Tags

/-!
# Settings of the wrong type

A configuration file may hold any value under any key.  This file says which values each setting
takes and what becomes of the others.

* `Text.WritesInteger`: the texts that stand for an integer, as a grammar.
* `Setting.Takes`: the values that a setting takes.
* `without`: a mapping with a key left out.
* `Settings.succeeds_config`: a mapping describes a configuration exactly if no number that stands
  for a text is too long to be written.
* `loadConfig_of_illTyped`: a value that a setting does not take counts as if its key were not there;
  but the generated directories are then none, or the numbers in some bytes.
-/

namespace StubLayers

open Yaml (Value)
open Settings (Pairs isKey lookup LongNumber numeralBound)

/-! ### Texts of integers -/

namespace Text

/-- Decimal digits, `n` of them, with single underscores between some. -/
inductive Digits : Nat → List Char → Prop
  | last {c : Char} : (digit? c).isSome → Digits 1 [c]
  | cons {c : Char} {n : Nat} {cs : List Char} : (digit? c).isSome → Digits n cs →
      Digits (n + 1) (c :: cs)
  | separated {c : Char} {n : Nat} {cs : List Char} : (digit? c).isSome → Digits n cs →
      Digits (n + 1) (c :: '_' :: cs)

/-- A sign or none and not too many digits, with blanks around them. -/
inductive WritesInteger : List Char → Prop
  | intro {before sign digits after : List Char} {n : Nat} : (∀ c ∈ before, isNumberBlank c) →
      sign ∈ [[], ['+'], ['-']] → Digits n digits → n ≤ maxDecimalDigits →
      (∀ c ∈ after, isNumberBlank c) → WritesInteger (before ++ (sign ++ digits) ++ after)

theorem isSome_digit?_of_lt {c : Char} {d : Nat} (h : digitValue? c = some d) (hd : d < 10) :
    (digit? c).isSome := by
  rw [digitValue?] at h
  split at h
  · obtain rfl := Option.some.inj h
    omega
  · split at h
    · obtain rfl := Option.some.inj h
      omega
    · rw [h]
      rfl

/-- What is read after a digit makes digits together with it. -/
theorem digits_of_digitsAfter (cs : List Char) : ∀ {ds : List Nat}, digitsAfter 10 cs = some ds →
    ∀ {c : Char}, (digit? c).isSome → Digits (ds.length + 1) (c :: cs) := by
  fun_induction digitsAfter 10 cs with
  | case1 =>
    intro ds h c hc
    obtain rfl := Option.some.inj h
    exact .last hc
  | case2 next rest d hvalue hd ih =>
    intro ds h c hc
    obtain ⟨more, hmore, rfl⟩ := Option.map_eq_some_iff.mp h
    exact .separated hc (ih hmore (isSome_digit?_of_lt hvalue hd))
  | case5 next rest _ d hvalue hd ih =>
    intro ds h c hc
    obtain ⟨more, hmore, rfl⟩ := Option.map_eq_some_iff.mp h
    exact .cons hc (ih hmore (isSome_digit?_of_lt hvalue hd))
  | case3 | case4 | case6 | case7 =>
    intro ds h
    exact absurd h (by simp)

theorem digits_of_digitsOf? {cs : List Char} {ds : List Nat} (h : digitsOf? 10 cs = some ds) :
    Digits ds.length cs := by
  rw [digitsOf?.eq_def] at h
  split at h
  · exact absurd h (by simp)
  · exact absurd h (by simp)
  · rename_i hnil hunderscore
    -- the first digit stands behind no underscore
    revert h
    fun_cases digitsAfter 10 cs with
    | case1 => exact absurd rfl hnil
    | case2 | case3 | case4 => exact absurd rfl (hunderscore _)
    | case5 first rest _ d hvalue hd =>
      intro h
      obtain ⟨more, hmore, rfl⟩ := Option.map_eq_some_iff.mp h
      exact digits_of_digitsAfter rest hmore (isSome_digit?_of_lt hvalue hd)
    | case6 | case7 =>
      intro h
      exact absurd h (by simp)

theorem dropBaseMark_decimal (cs : List Char) : dropBaseMark 10 cs = cs := by
  rw [dropBaseMark.eq_def]
  split
  · rw [if_neg (by simp [baseMark?])]
  · rfl

theorem splitSign_eq (cs : List Char) :
    ∃ sign ∈ [[], ['+'], ['-']], cs = sign ++ (splitSign cs).2 := by
  rw [splitSign.eq_def]
  split
  · exact ⟨['-'], by simp, rfl⟩
  · exact ⟨['+'], by simp, rfl⟩
  · exact ⟨[], by simp, rfl⟩

theorem trimBy_eq (test : Char → Bool) (cs : List Char) :
    ∃ before after, (∀ c ∈ before, test c) ∧ (∀ c ∈ after, test c) ∧
      cs = before ++ trimBy test cs ++ after := by
  have hstart := List.takeWhile_append_dropWhile (p := test) (l := cs)
  have hend := List.takeWhile_append_dropWhile (p := test) (l := (cs.dropWhile test).reverse)
  refine ⟨cs.takeWhile test, ((cs.dropWhile test).reverse.takeWhile test).reverse,
    List.all_eq_true.mp List.all_takeWhile, fun c hc => ?_, ?_⟩
  · exact List.all_eq_true.mp List.all_takeWhile c (List.mem_reverse.mp hc)
  · rw [trimBy, List.append_assoc, ← List.reverse_append, hend, List.reverse_reverse, hstart]

/-- A text that is read as an integer is one. -/
theorem writesInteger_of_readInt? {text : List Char} {n : Int} (h : readInt? 10 text = some n) :
    WritesInteger text := by
  obtain ⟨before, after, hbefore, hafter, htext⟩ := trimBy_eq isNumberBlank text
  obtain ⟨sign, hsign, hsplit⟩ := splitSign_eq (trimBy isNumberBlank text)
  rw [readInt?] at h
  dsimp only at h
  rw [dropBaseMark_decimal] at h
  cases hdigits : digitsOf? 10 (splitSign (trimBy isNumberBlank text)).2 with
  | none => simp [hdigits] at h
  | some ds =>
    simp only [hdigits, true_and] at h
    have hlength : ¬ maxDecimalDigits < ds.length := fun hlong => by simp [hlong] at h
    rw [htext, hsplit]
    exact .intro hbefore hsign (digits_of_digitsOf? hdigits) (Nat.not_lt.mp hlength) hafter

end Text

/-! ### Values that a setting takes -/

/-- What the top of a configuration file may set. -/
inductive Setting where
  | shimDir
  | generatedDirs
  | base
  | jobs
deriving DecidableEq

namespace Setting

def key : Setting → String
  | shimDir => "shim_dir"
  | generatedDirs => "generated_dirs"
  | base => "base"
  | jobs => "jobs"

/-- The value has a type that the setting takes.  Truth values are no numbers. -/
inductive Takes : Setting → Value → Prop
  | shimDir (text : String) : Takes shimDir (.string text)
  | shimNumber (n : Int) : Takes shimDir (.int n)
  | shimFraction (x : Float) : Takes shimDir (.float x)
  | generatedDir (text : String) : Takes generatedDirs (.string text)
  | generatedDirs (items : List Value) : Takes generatedDirs (.list items)
  | base (pairs : Pairs) : Takes base (.mapping pairs)
  | jobs (n : Int) : Takes jobs (.int n)
  | jobsText {text : String} : Text.WritesInteger text.toList → Takes jobs (.string text)

end Setting

/-- The numbers in bytes, as texts; anything else holds none. -/
def byteNumerals : Value → List String
  | .bytes bytes => bytes.map fun b => toString b.toNat
  | _ => []

section

variable {value : Value}

theorem text?_of_illTyped (h : ¬ Setting.shimDir.Takes value) : Settings.text? value = .ok none := by
  cases value with
  | string text => exact absurd (.shimDir text) h
  | int n => exact absurd (.shimNumber n) h
  | float x => exact absurd (.shimFraction x) h
  | _ => rfl

theorem pairsOf_of_illTyped (h : ¬ Setting.base.Takes value) : Settings.pairsOf value = [] := by
  cases value with
  | mapping pairs => exact absurd (.base pairs) h
  | _ => rfl

theorem int?_of_illTyped (h : ¬ Setting.jobs.Takes value) : Settings.int? value = none := by
  cases value with
  | int n => exact absurd (.jobs n) h
  | string text =>
    rw [Settings.int?, Option.eq_none_iff_forall_ne_some]
    exact fun n hread => h (.jobsText (Text.writesInteger_of_readInt? hread))
  | _ => rfl

theorem isDigit_of_mem_toString {n : Nat} {c : Char} (h : c ∈ (toString n).toList) :
    c.isDigit = true := by
  rw [Nat.toString_eq_repr, Nat.toList_repr] at h
  exact Nat.isDigit_of_mem_toDigits (by decide) (by decide) h

theorem directory_toString (n : Nat) : Settings.directory (toString n) = toString n := by
  have hlast : (toString n).toList.getLast? ≠ some '/' := fun hslash => by
    have hdigit := isDigit_of_mem_toString (List.mem_of_getLast? hslash)
    exact absurd hdigit (by decide)
  rw [Settings.directory, dropTrailingSlashes_of_getLast? hlast]
  exact ite_self _

theorem directories_of_illTyped (h : ¬ Setting.generatedDirs.Takes value) :
    Settings.directories value = .ok (byteNumerals value) := by
  cases value with
  | string text => exact absurd (.generatedDir text) h
  | list items => exact absurd (.generatedDirs items) h
  | bytes bytes =>
    simp only [Settings.directories, Settings.texts, Except.map, List.map_map, Function.comp_def,
      directory_toString, byteNumerals]
  | _ => rfl

/-- No bytes name the usual directory. -/
theorem byteNumerals_ne_default (value : Value) (root : Path) :
    byteNumerals value ≠ (CheckConfig.default root).generatedDirs := by
  intro h
  have hmem : "stubs/generated" ∈ byteNumerals value := by
    rw [h]
    exact List.mem_singleton.mpr rfl
  cases value with
  | bytes bytes =>
    obtain ⟨b, -, hb⟩ := List.mem_map.mp hmem
    have hdigit : ('s' : Char).isDigit = true := by
      refine isDigit_of_mem_toString (n := b.toNat) ?_
      rw [hb]
      decide
    exact absurd hdigit (by decide)
  | _ => exact absurd hmem List.not_mem_nil

end

/-! ### Mappings without a key -/

@[simp] theorem lookup_nil (key : String) : lookup key [] = none := rfl

/-- A mapping with a key left out. -/
def without (key : String) (pairs : Pairs) : Pairs := pairs.filter fun pair => !isKey key pair

theorem isKey_of_ne {key other : String} (hne : other ≠ key) {pair : Value × Value}
    (h : isKey other pair = true) : isKey key pair = false := by
  obtain ⟨first, second⟩ := pair
  cases first with
  | string text =>
    rw [isKey, decide_eq_true_eq] at h
    rw [isKey, decide_eq_false_iff_not, h]
    exact hne
  | _ => exact absurd h (by simp [isKey])

theorem lookup_without (key other : String) (pairs : Pairs) :
    lookup other (without key pairs) = if other = key then none else lookup other pairs := by
  rw [lookup, without, ← List.filter_reverse, List.find?_filter]
  split
  · rename_i heq
    rw [Option.map_eq_none_iff, List.find?_eq_none]
    simp [heq]
  · rename_i hne
    rw [lookup]
    congr 2
    funext pair
    cases hkey : isKey other pair with
    | false => simp
    | true => simp [isKey_of_ne hne hkey]

/-- Each setting reads its own key: leaving one out changes what it alone is read from. -/
theorem config_without (root : Path) (pairs : Pairs) {setting : Setting} {value : Value}
    (hgiven : lookup setting.key pairs = some value) (hill : ¬ setting.Takes value) :
    (setting ≠ .generatedDirs →
      Settings.config root pairs = Settings.config root (without setting.key pairs)) ∧
    (setting = .generatedDirs →
      Settings.config root pairs = (Settings.config root (without setting.key pairs)).map fun c =>
        { c with generatedDirs := byteNumerals value }) := by
  cases setting with
  | shimDir =>
    refine ⟨fun _ => ?_, fun h => nomatch h⟩
    simp only [Setting.key] at hgiven ⊢
    simp [Settings.config, Settings.textOf?, lookup_without, hgiven, text?_of_illTyped hill]
  | generatedDirs =>
    refine ⟨fun h => absurd rfl h, fun _ => ?_⟩
    simp only [Setting.key] at hgiven ⊢
    simp only [Settings.config, Settings.textOf?, lookup_without, hgiven, String.reduceEq, reduceIte,
      Option.elim_some, Option.elim_none, directories_of_illTyped hill]
    cases (lookup "shim_dir" pairs).elim (.ok none) Settings.text? with
    | error e => rfl
    | ok text =>
      cases Settings.base ((lookup "base" pairs).elim [] Settings.pairsOf) with
      | error e => rfl
      | ok base => rfl
  | base =>
    refine ⟨fun _ => ?_, fun h => nomatch h⟩
    simp only [Setting.key] at hgiven ⊢
    simp [Settings.config, Settings.textOf?, lookup_without, hgiven, pairsOf_of_illTyped hill]
  | jobs =>
    refine ⟨fun _ => ?_, fun h => nomatch h⟩
    simp only [Setting.key] at hgiven ⊢
    simp [Settings.config, Settings.textOf?, lookup_without, hgiven, int?_of_illTyped hill]

/-! ### Numbers that are written as texts -/

/-- The number stands where a text is wanted. -/
inductive WrittenAsText (pairs : Pairs) (n : Int) : Prop
  | shimDir : lookup "shim_dir" pairs = some (.int n) → WrittenAsText pairs n
  | generatedDir {items : List Value} : lookup "generated_dirs" pairs = some (.list items) →
      .int n ∈ items → WrittenAsText pairs n
  | base {inner : Pairs} {key : String} : lookup "base" pairs = some (.mapping inner) →
      key ∈ ["dir", "path_prefix", "url"] → lookup key inner = some (.int n) →
      WrittenAsText pairs n

namespace Settings

/-- No number on the way is too long. -/
def Succeeds {α : Type} (x : Except LongNumber α) : Prop := ∃ a, x = .ok a

section

variable {α β : Type} {x : Except LongNumber α}

theorem succeeds_ok (a : α) : Succeeds (.ok a) := ⟨a, rfl⟩

theorem succeeds_pure (a : α) : Succeeds (pure a) := ⟨a, rfl⟩

theorem not_succeeds_error (e : LongNumber) : ¬ Succeeds (.error e : Except LongNumber α) := by
  rintro ⟨a, h⟩
  exact absurd h (by simp)

theorem succeeds_map {f : α → β} : Succeeds (x.map f) ↔ Succeeds x := by
  cases x with
  | error e => exact iff_of_false (not_succeeds_error e) (not_succeeds_error e)
  | ok a => exact iff_of_true (succeeds_ok (f a)) (succeeds_ok a)

theorem succeeds_bind {f : α → Except LongNumber β} {q : Prop} (hf : ∀ a, Succeeds (f a) ↔ q) :
    Succeeds (x >>= f) ↔ Succeeds x ∧ q := by
  cases x with
  | error e => exact iff_of_false (not_succeeds_error e) fun h => not_succeeds_error e h.1
  | ok a => exact (hf a).trans (and_iff_right (succeeds_ok a)).symm

theorem succeeds_mapM {f : α → Except LongNumber β} {items : List α} :
    Succeeds (items.mapM f) ↔ ∀ item ∈ items, Succeeds (f item) := by
  induction items with
  | nil => exact ⟨fun _ _ h => absurd h List.not_mem_nil, fun _ => succeeds_ok []⟩
  | cons item items ih =>
    have hrest : ∀ b, Succeeds (do let bs ← items.mapM f; return b :: bs) ↔
        Succeeds (items.mapM f) := fun b =>
      (succeeds_bind fun bs => iff_true_intro (succeeds_pure (b :: bs))).trans (and_iff_left trivial)
    rw [List.mapM_cons, succeeds_bind hrest, ih, List.forall_mem_cons]

end

theorem succeeds_numeral (n : Int) : Succeeds (numeral n) ↔ n.natAbs < numeralBound := by
  rw [numeral]
  split
  · rename_i hshort
    exact iff_of_true (succeeds_ok _) hshort
  · rename_i hlong
    exact iff_of_false (not_succeeds_error _) hlong

theorem succeeds_text? (value : Value) :
    Succeeds (text? value) ↔ ∀ n, value = .int n → n.natAbs < numeralBound := by
  cases value with
  | int n => simp [text?, succeeds_map, succeeds_numeral]
  | _ => simp [text?, succeeds_ok]

theorem succeeds_itemText? (value : Value) :
    Succeeds (itemText? value) ↔ ∀ n, value = .int n → n.natAbs < numeralBound := by
  cases value with
  | bool b => cases b <;> simp [itemText?, succeeds_ok]
  | _ => simpa only [itemText?] using succeeds_text? _

theorem succeeds_textOf? (key : String) (pairs : Pairs) :
    Succeeds (textOf? key pairs) ↔
      ∀ n, lookup key pairs = some (.int n) → n.natAbs < numeralBound := by
  rw [textOf?]
  cases lookup key pairs with
  | none => simp [succeeds_ok]
  | some value => simp [succeeds_text?]

theorem succeeds_directories (value : Value) :
    Succeeds (directories value) ↔
      ∀ items, value = .list items → ∀ n, .int n ∈ items → n.natAbs < numeralBound := by
  rw [directories, succeeds_map]
  cases value with
  | list items =>
    simp only [texts, succeeds_map, succeeds_mapM, succeeds_itemText?, Value.list.injEq]
    constructor
    · rintro h items' rfl n hn
      exact h _ hn n rfl
    · rintro h item hitem n rfl
      exact h items rfl n hitem
  | _ => simp [texts, succeeds_ok]

theorem succeeds_base (pairs : Pairs) :
    Succeeds (base pairs) ↔ ∀ key ∈ ["dir", "path_prefix", "url"], ∀ n,
      lookup key pairs = some (.int n) → n.natAbs < numeralBound := by
  rw [base]
  split
  · rename_i hempty
    rw [List.isEmpty_iff.mp hempty]
    exact iff_of_true (succeeds_ok _) fun _ _ n h => absurd h (by simp)
  · rw [succeeds_bind fun dir => succeeds_bind fun pathPrefix => succeeds_bind fun url =>
      iff_true_intro (succeeds_pure _), and_true]
    simp only [succeeds_textOf?, List.mem_cons, List.not_mem_nil, or_false, forall_eq_or_imp,
      forall_eq]

/-- **When a mapping describes a configuration.** -/
theorem succeeds_config (root : Path) (pairs : Pairs) :
    Succeeds (config root pairs) ↔ ∀ n, WrittenAsText pairs n → n.natAbs < numeralBound := by
  rw [config, succeeds_bind fun shimDir => succeeds_bind fun generatedDirs => succeeds_bind
    fun base => iff_true_intro (succeeds_pure _), and_true]
  have hdirectories : Succeeds ((lookup "generated_dirs" pairs).elim
      (.ok (CheckConfig.default root).generatedDirs) directories) ↔
      ∀ items, lookup "generated_dirs" pairs = some (.list items) →
        ∀ n, .int n ∈ items → n.natAbs < numeralBound := by
    cases lookup "generated_dirs" pairs with
    | none => simp [succeeds_ok]
    | some value => simp [succeeds_directories]
  rw [succeeds_textOf?, hdirectories, succeeds_base]
  constructor
  · rintro ⟨hshim, hgenerated, hbase⟩ n (h | ⟨hitems, hn⟩ | ⟨hinner, hkey, hn⟩)
    · exact hshim n h
    · exact hgenerated _ hitems n hn
    · rw [hinner] at hbase
      exact hbase _ hkey n hn
  · intro h
    refine ⟨fun n hn => h n (.shimDir hn), fun items hitems n hn => h n (.generatedDir hitems hn),
      fun key hkey n hn => ?_⟩
    cases hinner : lookup "base" pairs with
    | none =>
      rw [hinner] at hn
      exact absurd hn (by simp)
    | some value =>
      rw [hinner] at hn
      cases value with
      | mapping inner => exact h n (.base hinner hkey hn)
      | _ => exact absurd hn (by simp [pairsOf])

end Settings

/-! ### Loading -/

/-- The path speaks of a configuration file, whose text gives the pairs. -/
structure Config.Holds (host : Host) (path file : Path) (pairs : Pairs) : Prop where
  located : ∃ home, host.expandHome? path = some home ∧ Config.filePath host home = file
  present : host.contains file = true
  written : ∃ text, host.readText file = .ok text ∧ Config.pairsOf text = .ok pairs

theorem Config.Holds.loadConfig_eq {host : Host} {path file : Path} {pairs : Pairs}
    (h : Config.Holds host path file pairs) :
    loadConfig host path = Config.ofPairs file.parent pairs := by
  obtain ⟨⟨home, hhome, rfl⟩, hpresent, text, htext, hpairs⟩ := h
  rw [loadConfig, hhome]
  dsimp only
  rw [Config.ofFile, if_pos hpresent, htext]
  dsimp only
  rw [hpairs]

theorem Config.exists_ofPairs_iff (root : Path) (pairs : Pairs) :
    (∃ c, Config.ofPairs root pairs = .ok c) ↔ Settings.Succeeds (Settings.config root pairs) := by
  rw [Config.ofPairs, Settings.Succeeds]
  cases Settings.config root pairs <;> simp [Except.mapError]

/-- **Settings of the wrong type.**  Where a configuration file sets something to a value that the
setting does not take, the configuration is that of the mapping without the key, unless the
generated directories are set: these are then the numbers in the bytes, if the value is made of
bytes, or else none at all, and never the usual ones.  Loading fails exactly if a number that stands
for a text has too many digits. -/
theorem loadConfig_of_illTyped (host : Host) (path file : Path) (pairs : Pairs)
    (holds : Config.Holds host path file pairs) (setting : Setting) (value : Value)
    (given : lookup setting.key pairs = some value) (illTyped : ¬ setting.Takes value) :
    (setting ≠ .generatedDirs →
      loadConfig host path = Config.ofPairs file.parent (without setting.key pairs)) ∧
    (setting = .generatedDirs →
      loadConfig host path = (Config.ofPairs file.parent (without setting.key pairs)).map
          (fun c => { c with generatedDirs := byteNumerals value }) ∧
        byteNumerals value ≠ (CheckConfig.default file.parent).generatedDirs) ∧
    ((∃ c, loadConfig host path = .ok c) ↔
      ∀ n, WrittenAsText pairs n → n.natAbs < numeralBound) := by
  obtain ⟨hothers, hgenerated⟩ := config_without file.parent pairs given illTyped
  rw [holds.loadConfig_eq]
  refine ⟨fun h => ?_, fun h => ⟨?_, byteNumerals_ne_default value file.parent⟩, ?_⟩
  · rw [Config.ofPairs, hothers h, Config.ofPairs]
  · rw [Config.ofPairs, hgenerated h, Config.ofPairs]
    cases Settings.config file.parent (without setting.key pairs) <;> rfl
  · rw [Config.exists_ofPairs_iff, Settings.succeeds_config]

/-- A machine with a configuration file and nothing else. -/
def configured (text : String) : Host :=
  ⟨FileTree.empty.write ["p", configFileName] (Utf8.encode text), [], "/", []⟩

/-- A value given as a truth value. -/
def truth? : Option Value → Option Bool
  | some (.bool b) => some b
  | _ => none

theorem eq_of_truth? {value : Option Value} {b : Bool} (h : truth? value = some b) :
    value = some (.bool b) := by
  match value with
  | some (.bool b') => rw [Option.some.inj h]
  | none => exact absurd h (by simp [truth?])

theorem loadConfig_of_illTyped_truth : ∃ pairs,
    Config.Holds (configured "shim_dir: yes\njobs: 2\n") ⟨.slash, ["p"]⟩
        ⟨.slash, ["p", configFileName]⟩ pairs ∧
      lookup "shim_dir" pairs = some (.bool true) ∧ ¬ Setting.shimDir.Takes (.bool true) ∧
      loadConfig (configured "shim_dir: yes\njobs: 2\n") ⟨.slash, ["p"]⟩ =
        Config.ofPairs ⟨.slash, ["p"]⟩ (without "shim_dir" pairs) := by
  have htruth : (Config.pairsOf "shim_dir: yes\njobs: 2\n").toOption.map (fun pairs =>
      truth? (lookup "shim_dir" pairs)) = some (some true) := by decide +kernel
  cases written : Config.pairsOf "shim_dir: yes\njobs: 2\n" with
  | error fault =>
    rw [written] at htruth
    exact absurd htruth (by simp [Except.toOption])
  | ok pairs =>
    rw [written] at htruth
    have given := eq_of_truth? (Option.some.inj htruth)
    have illTyped : ¬ Setting.shimDir.Takes (.bool true) := fun h => nomatch h
    have holds : Config.Holds (configured "shim_dir: yes\njobs: 2\n") ⟨.slash, ["p"]⟩
        ⟨.slash, ["p", configFileName]⟩ pairs :=
      ⟨⟨_, rfl, by decide +kernel⟩, by decide +kernel, _, by decide +kernel, written⟩
    exact ⟨pairs, holds, given, illTyped,
      (loadConfig_of_illTyped _ _ _ _ holds .shimDir _ given illTyped).1 (by decide)⟩

/-- A number takes the usual generated directories away, and one that is too long stops the loading
where a truth value is ignored. -/
theorem number_empties_generatedDirs :
    loadConfig (configured "generated_dirs: 5\n") ⟨.slash, ["p"]⟩ =
      .ok { CheckConfig.default ⟨.slash, ["p"]⟩ with generatedDirs := [] } ∧
    loadConfig (configured "jobs: 1\n") ⟨.slash, ["p"]⟩ =
      .ok (CheckConfig.default ⟨.slash, ["p"]⟩) ∧
    Config.ofPairs ⟨.slash, ["p"]⟩
        [(.string "jobs", .bool true), (.string "shim_dir", .int numeralBound)] =
      .error (.longNumber ⟨numeralBound⟩) := by
  decide +kernel

end StubLayers
