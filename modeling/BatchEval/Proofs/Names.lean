/-
Names of accelerators as people write them. Two writings of one name differ in the blanks at their ends and in the case of
ASCII letters, and in nothing else. The settings depend on the name that a source gives for one key, and on nothing else
that the source could be asked.

- `Text.SameLetter`, `Text.Padded`, `Text.Restyled`: which texts are two writings of one name.
- `Text.toLower_eq_iff`, `Text.trimList_append`, `Text.padded_trimList`: what small letters and trimming hide, no more.
- `Accelerator.normalized_eq_iff`: names are compared by a text that only other writings of a name share.
- `Accelerator.Spells`, `Accelerator.named_iff_spells`: the five words, in any writing.
- `Config.Source`, `Config.Source.recording`: what settings are read from, and the same with a record of the keys.
- `Config.ofLookup_exact`: what is read as which accelerator, what is refused, and what the settings depend on.
-/
import BatchEval.Context
import BatchEval.Proofs.Spelling
import Mathlib.Data.List.DropRight
import Mathlib.Data.List.Forall2

namespace BatchEval

/-! ## Writings of one name -/

namespace Text

/-- the characters are the same, or one is an ASCII capital and the other its small letter -/
def SameLetter (c d : Char) : Prop :=
  c = d ∨ (c.isUpper = true ∧ d.toNat = c.toNat + 32) ∨ (d.isUpper = true ∧ c.toNat = d.toNat + 32)

/-- the text is made of the characters and of blanks before and after them -/
def Padded (cs : List Char) (text : String) : Prop :=
  ∃ before after, (∀ c ∈ before, isBlank c = true) ∧ (∀ c ∈ after, isBlank c = true) ∧
    text.toList = before ++ cs ++ after

/-- the texts differ at most in the blanks at their ends and in the case of ASCII letters -/
def Restyled (text other : String) : Prop :=
  ∃ cs ds, Padded cs text ∧ Padded ds other ∧ List.Forall₂ SameLetter cs ds

variable {c d : Char} {cs ds before after : List Char} {text : String}

/-! ### Small letters -/

theorem isUpper_iff : c.isUpper = true ↔ 65 ≤ c.toNat ∧ c.toNat ≤ 90 := by
  change decide (c.val ≥ 'A'.val ∧ c.val ≤ 'Z'.val) = true ↔ _
  simp [UInt32.le_iff_toNat_le, ← Char.toNat_val]

theorem toNat_toLower (c : Char) : c.toLower.toNat = if c.isUpper = true then c.toNat + 32 else c.toNat := by
  unfold Char.toLower
  split
  · rename_i h
    have hc : c.isUpper = true := decide_eq_true h
    have hbounds := isUpper_iff.1 hc
    rw [if_pos hc]
    change (c.val + ('a'.val - 'A'.val)).toNat = c.val.toNat + 32
    rw [UInt32.toNat_add]
    change (c.toNat + 32) % 2 ^ 32 = c.toNat + 32
    omega
  · rename_i h
    have hc : ¬c.isUpper = true := fun hc => h (of_decide_eq_true hc)
    rw [if_neg hc]

/-- making letters small hides the case of ASCII letters and nothing else -/
theorem toLower_eq_iff : c.toLower = d.toLower ↔ SameLetter c d := by
  simp only [SameLetter, ← Char.toNat_inj, toNat_toLower, isUpper_iff]
  split <;> split <;> omega

theorem sameLetter_toLower (c : Char) : SameLetter c c.toLower := by
  by_cases h : c.isUpper = true
  · exact .inr (.inl ⟨h, by rw [toNat_toLower, if_pos h]⟩)
  · exact .inl (Char.toNat_inj.1 (by rw [toNat_toLower, if_neg h]))

theorem map_toLower_eq_iff : cs.map Char.toLower = ds.map Char.toLower ↔ List.Forall₂ SameLetter cs ds := by
  rw [← List.forall₂_eq_eq_eq, List.forall₂_map_left_iff, List.forall₂_map_right_iff]
  simp only [toLower_eq_iff]

/-- no letter is a blank, so case does not matter to trimming -/
theorem isBlank_toLower (c : Char) : isBlank c.toLower = isBlank c := by
  unfold isBlank
  rw [toNat_toLower]
  split
  · rename_i h
    have hbounds := isUpper_iff.1 h
    rw [Bool.eq_iff_iff]
    simp only [Bool.or_eq_true, Bool.and_eq_true, decide_eq_true_eq, beq_iff_eq]
    omega
  · rfl

theorem trimList_map_toLower (cs : List Char) : trimList (cs.map Char.toLower) = (trimList cs).map Char.toLower := by
  have hblank : isBlank ∘ Char.toLower = isBlank := funext isBlank_toLower
  simp only [trimList, List.dropWhile_map, hblank, ← List.map_reverse]

/-! ### Blanks at the ends -/

/-- blanks around a text do not get past trimming -/
theorem trimList_append (hbefore : ∀ c ∈ before, isBlank c = true) (hafter : ∀ c ∈ after, isBlank c = true) :
    trimList (before ++ cs ++ after) = trimList cs := by
  have hrest : ∀ c ∈ after.reverse, isBlank c = true := fun c hc => hafter c (List.mem_reverse.1 hc)
  rw [trimList, List.append_assoc, List.dropWhile_append_of_pos hbefore, List.dropWhile_append]
  split
  · -- nothing but blanks: the ones behind fall at the first end
    rename_i hnone
    rw [List.isEmpty_iff] at hnone
    have hall : after.dropWhile isBlank = [] := List.dropWhile_eq_nil_iff.2 hafter
    rw [hall, trimList, hnone]
  · rw [List.reverse_append, List.dropWhile_append_of_pos hrest, trimList]

/-- what trimming takes away is blank -/
theorem padded_trimList (text : String) : Padded (trimList text.toList) text := by
  refine ⟨text.toList.takeWhile isBlank, (text.toList.dropWhile isBlank).rtakeWhile isBlank,
    fun c => List.mem_takeWhile_imp, fun c => List.mem_rtakeWhile_imp, ?_⟩
  change text.toList = _ ++ (text.toList.dropWhile isBlank).rdropWhile isBlank ++ _
  rw [List.append_assoc, List.rdropWhile_append_rtakeWhile, List.takeWhile_append_dropWhile]

theorem padded_self (text : String) : Padded text.toList text := ⟨[], [], nofun, nofun, by simp⟩

theorem Padded.trimList_eq (h : Padded cs text) : trimList text.toList = trimList cs := by
  obtain ⟨before, after, hbefore, hafter, htext⟩ := h
  rw [htext, trimList_append hbefore hafter]

end Text

/-! ## Accelerators -/

namespace Accelerator

open Text

variable {text other : String} {x : Accelerator} {e : UnknownAccelerator}

/-- the words for accelerators, which may have more than one -/
def words : List (String × Accelerator) := [("cpu", cpu), ("gpu", gpu), ("cuda", gpu), ("webgl", gpu), ("auto", auto)]

/-- the text is a word for the accelerator, with any blanks around it and any of its letters made capitals -/
def Spells (text : String) (x : Accelerator) : Prop :=
  ∃ word letters, (word, x) ∈ words ∧ Padded letters text ∧ List.Forall₂ SameLetter letters word.toList

/-- names are compared by a text that tells apart exactly what is not two writings of one name -/
theorem normalized_eq_iff : normalized text = normalized other ↔ Restyled text other := by
  unfold normalized
  rw [String.ofList_inj]
  constructor
  · intro h
    exact ⟨_, _, padded_trimList text, padded_trimList other, map_toLower_eq_iff.1 h⟩
  · rintro ⟨cs, ds, htext, hother, hletters⟩
    rw [htext.trimList_eq, hother.trimList_eq, ← trimList_map_toLower, ← trimList_map_toLower,
      map_toLower_eq_iff.2 hletters]

/-- the words are in the form that names are compared by -/
theorem normalized_word {word : String} (h : (word, x) ∈ words) : normalized word = word := by
  simp only [words, List.mem_cons, Prod.mk.injEq, List.not_mem_nil, or_false] at h
  rcases h with ⟨rfl, -⟩ | ⟨rfl, -⟩ | ⟨rfl, -⟩ | ⟨rfl, -⟩ | ⟨rfl, -⟩ <;> decide

theorem named_iff_spells : Named text x ↔ Spells text x := by
  constructor
  · intro h
    refine ⟨normalized text, trimList text.toList, h, padded_trimList text, ?_⟩
    rw [normalized, String.toList_ofList, List.forall₂_map_right_iff, List.forall₂_same]
    exact fun c _ => sameLetter_toLower c
  · rintro ⟨word, letters, hword, htext, hletters⟩
    have hstyle : Restyled text word := ⟨letters, word.toList, htext, padded_self word, hletters⟩
    have hnormalized : normalized text = word := (normalized_eq_iff.2 hstyle).trans (normalized_word hword)
    unfold Named
    rwa [hnormalized]

/-- the texts that are read -/
theorem parse_ok_iff_spells : parse text = .ok x ↔ Spells text x := by
  rw [parse_eq_ok_iff, named_iff_spells]

/-- every other text is given back as it is -/
theorem parse_error_iff_spells : parse text = .error e ↔ (∀ x, ¬Spells text x) ∧ e = ⟨text⟩ := by
  simp only [parse_eq_error_iff, named_iff_spells]

/-- it does not matter how a name is written -/
theorem parse_ok_iff_of_restyled (h : Restyled text other) : parse text = .ok x ↔ parse other = .ok x := by
  rw [parse_eq_ok_iff, parse_eq_ok_iff, Named, Named, normalized_eq_iff.2 h]

-- a joiner that draws nothing is no blank, and a letter of another alphabet is not the one that it looks like
example : parse "\u2060cpu" = .error ⟨"\u2060cpu"⟩ ∧ parse "\u0441pu" = .error ⟨"\u0441pu"⟩ ∧
    parse "\u3000CuDa\n" = .ok gpu := by decide

theorem parse_name (x : Accelerator) : parse x.name = .ok x := by cases x <;> decide

end Accelerator

/-! ## Settings -/

namespace Config

/-- something that answers for keys and may keep a state -/
abbrev Source (σ : Type) := String → StateM σ (Option String)

/-- the source that also keeps the keys it was asked for, the first one first -/
def Source.recording {σ : Type} (ask : Source σ) : Source (σ × List String) := fun key s =>
  let (value, state) := ask key s.1
  (value, (state, s.2 ++ [key]))

/-- the source that answers from a list of entries -/
def Source.ofEntries (entries : List (String × String)) : Source Unit := fun key => pure (entries.lookup key)

variable {σ : Type} {value : Option String} {c : Config} {e : UnknownAccelerator}

theorem run_ofLookup (ask : Source σ) (s : σ) :
    (ofLookup ask).run s = (ofValue ((ask "backend").run s).1, ((ask "backend").run s).2) := rfl

theorem ofValue_eq_ok_iff : ofValue value = .ok c ↔
    (value = none ∧ c = {}) ∨ ∃ text, value = some text ∧ Accelerator.Spells text c.accelerator := by
  cases value with
  | none => simp [ofValue, eq_comm]
  | some text =>
    simp only [reduceCtorEq, false_and, Option.some.injEq, exists_eq_left', false_or,
      ← Accelerator.parse_ok_iff_spells, ofValue]
    cases Accelerator.parse text with
    | ok x => cases c; simp [Except.map]
    | error e => simp [Except.map]

theorem ofValue_eq_error_iff : ofValue value = .error e ↔
    ∃ text, value = some text ∧ (∀ x, ¬Accelerator.Spells text x) ∧ e = ⟨text⟩ := by
  cases value with
  | none => simp [ofValue]
  | some text =>
    simp only [Option.some.injEq, exists_eq_left', ← Accelerator.parse_error_iff_spells, ofValue]
    cases Accelerator.parse text with
    | ok x => simp [Except.map]
    | error e => simp [Except.map]

/-- **Names and settings.** An accelerator is read exactly from the writings of its words, any other text is refused and
given back as it is, and no two writings of a text are told apart. The name of an accelerator reads back. For settings a
source is asked for one key, once. Its answer decides what they are, whatever else it holds, and they are refused exactly
if there is an answer that is no writing of a word. -/
theorem ofLookup_exact :
    (∀ text x, Accelerator.parse text = .ok x ↔ Accelerator.Spells text x) ∧
    (∀ text other, Text.Restyled text other →
      ∀ x, Accelerator.parse text = .ok x ↔ Accelerator.parse other = .ok x) ∧
    (∀ text e, Accelerator.parse text = .error e ↔ (∀ x, ¬Accelerator.Spells text x) ∧ e = ⟨text⟩) ∧
    (∀ x : Accelerator, Accelerator.parse x.name = .ok x) ∧
    ∀ {σ : Type} (ask : Source σ) (s : σ),
      (∀ asked, (ofLookup ask.recording).run (s, asked) =
        (((ofLookup ask).run s).1, (((ask "backend").run s).2, asked ++ ["backend"]))) ∧
      (∀ {τ : Type} (other : Source τ) (t : τ), ((ask "backend").run s).1 = ((other "backend").run t).1 →
        ((ofLookup ask).run s).1 = ((ofLookup other).run t).1) ∧
      (∀ c : Config, ((ofLookup ask).run s).1 = .ok c ↔ (((ask "backend").run s).1 = none ∧ c = {}) ∨
        ∃ text, ((ask "backend").run s).1 = some text ∧ Accelerator.Spells text c.accelerator) ∧
      ∀ e, ((ofLookup ask).run s).1 = .error e ↔
        ∃ text, ((ask "backend").run s).1 = some text ∧ (∀ x, ¬Accelerator.Spells text x) ∧ e = ⟨text⟩ := by
  refine ⟨fun _ _ => Accelerator.parse_ok_iff_spells, fun _ _ h _ => Accelerator.parse_ok_iff_of_restyled h,
    fun _ _ => Accelerator.parse_error_iff_spells, Accelerator.parse_name, ?_⟩
  intro σ ask s
  refine ⟨fun _ => rfl, ?_, fun _ => ofValue_eq_ok_iff, fun _ => ofValue_eq_error_iff⟩
  intro τ other t h
  rw [run_ofLookup, run_ofLookup, h]

/-- an entry beside the one that counts does not count, and neither does how the name is written -/
theorem ofLookup_exact_webgl :
    Text.Restyled "\u00a0WebGL\n" "webgl" ∧ Accelerator.parse "\u00a0WebGL\n" = .ok .gpu ∧
    ((ofLookup (Source.ofEntries [("device", "abacus"), ("backend", "\u00a0WebGL\n")])).run ()).1 = .ok ⟨.gpu⟩ ∧
    (ofLookup (Source.ofEntries [("backend", "\u00a0WebGL\n")]).recording).run ((), []) =
      (.ok ⟨.gpu⟩, ((), ["backend"])) := by
  obtain ⟨-, hstyle, -, -, hsource⟩ := ofLookup_exact
  have hrestyled : Text.Restyled "\u00a0WebGL\n" "webgl" := Accelerator.normalized_eq_iff.1 (by decide)
  have hgpu : Accelerator.parse "\u00a0WebGL\n" = .ok .gpu := (hstyle _ _ hrestyled .gpu).2 (by decide)
  obtain ⟨hasked, hagree, -, -⟩ := hsource (Source.ofEntries [("backend", "\u00a0WebGL\n")]) ()
  have hsettings : ((ofLookup (Source.ofEntries [("backend", "\u00a0WebGL\n")])).run ()).1 = .ok ⟨.gpu⟩ := by
    change (Accelerator.parse "\u00a0WebGL\n").map _ = _
    rw [hgpu]
    rfl
  refine ⟨hrestyled, hgpu, ?_, ?_⟩
  · rw [← hagree (Source.ofEntries [("device", "abacus"), ("backend", "\u00a0WebGL\n")]) () rfl, hsettings]
  · rw [hasked, hsettings]
    rfl

end Config

end BatchEval
