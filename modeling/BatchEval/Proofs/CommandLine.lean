/-
The command line as a language. A line is a row of segments: the flag on its own, or an option and the token that follows
it, whatever that looks like. The reader accepts exactly the lines that are made of segments with valid values.

- `Setting.Reads`, `Setting.Rejects`: what a value stands for, and what is told of one that stands for nothing.
- `Args.content`, `Args.put`: the arguments as a store with one place for each option.
- `parseFrom_spell`: segments are read one after the other, each of them on top of the ones before.
- `content_after`, `apply_comm`: the last segment of an option counts, and segments of two options do not interfere.
- `Offends`, `exists_segments`: what stands where the segments of a line end before it does, and nothing else can.
- `parse_grammar`: which lines are read, and as what; which are refused, and with what.
-/
import BatchEval.Bench.Args
import BatchEval.Proofs.History
import BatchEval.Proofs.Spelling

namespace BatchEval.Bench

/-! ## Options and their values -/

/-- what the arguments hold for an option -/
inductive Content
  | number (n : Nat)
  | text (s : String)
  | path (s : Option String)
  | accelerator (x : Accelerator)

namespace Setting

/-- the limit of the numbers that an option takes, none for an option that takes no number -/
def limit? : Setting → Option Nat
  | width | height | maxBatch | iterations => some Size.limit
  | version => some Args.versionLimit
  | device | model | accelerator => none

/-- the value is valid for the option and stands for this content -/
inductive Reads : Setting → String → Content → Prop
  | number {k : Setting} {limit n : Nat} {value : String} (hk : k.limit? = some limit)
      (hn : Text.Numeral limit value n) : Reads k value (.number n)
  | device (value : String) : Reads device value (.text value)
  | model (value : String) : Reads model value (.path (some value))
  | accelerator {value : String} {x : Accelerator} (hx : Accelerator.Named value x) :
      Reads accelerator value (.accelerator x)

/-- what is told of a value that is not valid for the option -/
inductive Rejects : Setting → String → ArgError → Prop
  | number {k : Setting} {limit : Nat} {value : String} {e : Text.NumberError} (hk : k.limit? = some limit)
      (he : Text.Natural.read limit value = .error e) : Rejects k value (.badNumber k e)
  | accelerator {value : String} (hx : ∀ x, ¬Accelerator.Named value x) :
      Rejects accelerator value (.badAccelerator ⟨value⟩)

variable {k : Setting} {limit : Nat} {value : String} {c : Content} {e : ArgError}

theorem limit?_pos (hk : k.limit? = some limit) : 0 < limit := by
  cases k <;> cases hk <;> decide

theorem token_ne_ownership (k : Setting) : k.token ≠ ownershipToken := by cases k <;> decide

/-- a token sets no option exactly if it is none of their names -/
theorem ofToken?_eq_none_iff {token : String} : ofToken? token = none ↔ ∀ k : Setting, token ≠ k.token := by
  simp only [ofToken?, List.find?_eq_none, beq_iff_eq]
  constructor
  · intro h k htoken
    exact h k (by cases k <;> decide) htoken.symm
  · intro h k _ htoken
    exact h k htoken.symm

theorem token_of_ofToken? {token : String} (h : ofToken? token = some k) : token = k.token := by
  unfold ofToken? at h
  have hfound := List.find?_some h
  exact (beq_iff_eq.1 hfound).symm

end Setting

namespace Args

variable {a b : Args} {j k : Setting} {limit : Nat} {value : String} {c : Content} {e : ArgError}

/-- what is held for an option -/
def content (a : Args) : Setting → Content
  | .width => .number a.width
  | .height => .number a.height
  | .maxBatch => .number a.maxBatch
  | .iterations => .number a.iterations
  | .version => .number a.version
  | .device => .text a.device
  | .model => .path a.model
  | .accelerator => .accelerator a.accelerator

/-- the arguments with another content for one option, if it is of the kind that the option holds -/
def put (a : Args) : Setting → Content → Args
  | .width, .number n => { a with width := n }
  | .height, .number n => { a with height := n }
  | .maxBatch, .number n => { a with maxBatch := n }
  | .iterations, .number n => { a with iterations := n }
  | .version, .number n => { a with version := n }
  | .device, .text s => { a with device := s }
  | .model, .path s => { a with model := s }
  | .accelerator, .accelerator x => { a with accelerator := x }
  | _, _ => a

/-- arguments with the same contents and the same flag are the same -/
theorem ext_content (hcontent : ∀ k, a.content k = b.content k) (hflag : a.ownership = b.ownership) : a = b := by
  have hwidth := hcontent .width
  have hheight := hcontent .height
  have hmaxBatch := hcontent .maxBatch
  have hiterations := hcontent .iterations
  have hversion := hcontent .version
  have hdevice := hcontent .device
  have hmodel := hcontent .model
  have haccelerator := hcontent .accelerator
  cases a
  cases b
  simp_all [content]

/-- a valid content is held for its option and for no other -/
theorem content_put (h : k.Reads value c) (j : Setting) :
    (a.put k c).content j = if j = k then c else a.content j := by
  cases h with
  | number hk hn => cases k <;> cases hk <;> cases j <;> rfl
  | device => cases j <;> rfl
  | model => cases j <;> rfl
  | accelerator hx => cases j <;> rfl

theorem ownership_put (h : k.Reads value c) : (a.put k c).ownership = a.ownership := by
  cases h with
  | number hk hn => cases k <;> cases hk <;> rfl
  | device => rfl
  | model => rfl
  | accelerator hx => rfl

/-! ## One value -/

/-- all options that take a number read it in the same way -/
theorem set_number (hk : k.limit? = some limit) (a : Args) (value : String) : a.set k value =
    ((Text.Natural.read limit value).mapError (.badNumber k)).map fun n => a.put k (.number n) := by
  cases k <;> cases hk <;> rfl

theorem set_eq_of_reads (h : k.Reads value c) (a : Args) : a.set k value = .ok (a.put k c) := by
  cases h with
  | number hk hn =>
    rw [set_number hk, (Text.Natural.read_eq_ok_iff (Setting.limit?_pos hk)).2 hn]
    rfl
  | device => rfl
  | model => rfl
  | accelerator hx =>
    simp only [set, Accelerator.parse_eq_ok_iff.2 hx]
    rfl

theorem set_eq_of_rejects (h : k.Rejects value e) (a : Args) : a.set k value = .error e := by
  cases h with
  | number hk he =>
    rw [set_number hk, he]
    rfl
  | accelerator hx =>
    simp only [set, Accelerator.parse_eq_error_iff.2 ⟨hx, rfl⟩]
    rfl

end Args

namespace Setting

theorem reads_or_rejects_number {k : Setting} {limit : Nat} (hk : k.limit? = some limit) (value : String) :
    (∃ c, k.Reads value c) ∨ ∃ e, k.Rejects value e := by
  cases hread : Text.Natural.read limit value with
  | ok n => exact .inl ⟨_, .number hk ((Text.Natural.read_eq_ok_iff (limit?_pos hk)).1 hread)⟩
  | error e => exact .inr ⟨_, .number hk hread⟩

/-- a value that is not valid is told of -/
theorem reads_or_rejects (k : Setting) (value : String) : (∃ c, k.Reads value c) ∨ ∃ e, k.Rejects value e := by
  cases hk : k.limit? with
  | some limit => exact reads_or_rejects_number hk value
  | none =>
    cases k with
    | device => exact .inl ⟨_, .device value⟩
    | model => exact .inl ⟨_, .model value⟩
    | accelerator =>
      by_cases hx : ∃ x, Accelerator.Named value x
      · obtain ⟨x, hx⟩ := hx
        exact .inl ⟨_, .accelerator hx⟩
      · exact .inr ⟨_, .accelerator (not_exists.1 hx)⟩
    | _ => cases hk

theorem Rejects.not_reads {k : Setting} {value : String} {e : ArgError} (h : k.Rejects value e) (c : Content) :
    ¬k.Reads value c := by
  intro hc
  have hset := Args.set_eq_of_reads hc {}
  rw [Args.set_eq_of_rejects h] at hset
  cases hset

end Setting

/-! ## Segments -/

/-- a stretch of a command line that sets one thing, with the content that its value stands for -/
inductive Segment
  | ownership
  | setting (k : Setting) (value : String) (c : Content) (valid : k.Reads value c)

namespace Segment

variable {k : Setting} {s t : Segment} {a : Args}

def tokens : Segment → List String
  | ownership => [ownershipToken]
  | setting k value _ _ => [k.token, value]

/-- the line that the segments make -/
def spell (segs : List Segment) : List String := segs.flatMap tokens

/-- the option of a segment, none for the flag -/
def option : Segment → Option Setting
  | ownership => none
  | setting k _ _ _ => some k

/-- what the segment says about an option -/
def content? (k : Setting) : Segment → Option Content
  | ownership => none
  | setting j _ c _ => if k = j then some c else none

/-- the arguments after the segment -/
def apply (a : Args) : Segment → Args
  | ownership => { a with ownership := true }
  | setting k _ c _ => a.put k c

theorem spell_cons (s : Segment) (segs : List Segment) : spell (s :: segs) = s.tokens ++ spell segs := rfl

theorem content_apply (a : Args) (s : Segment) (k : Setting) :
    (s.apply a).content k = (s.content? k).getD (a.content k) := by
  cases s with
  | ownership => cases k <;> rfl
  | setting j value c valid =>
    rw [apply, Args.content_put valid, content?]
    split <;> rfl

theorem ownership_apply (a : Args) (s : Segment) :
    (s.apply a).ownership = true ↔ a.ownership = true ∨ s = .ownership := by
  cases s with
  | ownership => simp [apply]
  | setting j value c valid => simp [apply, Args.ownership_put valid]

/-- segments of two options leave each other alone -/
theorem apply_comm (h : s.option ≠ t.option) (a : Args) : t.apply (s.apply a) = s.apply (t.apply a) := by
  refine Args.ext_content (fun k => ?_) ?_
  · simp only [content_apply]
    cases s with
    | ownership => rfl
    | setting i _ c _ =>
      cases t with
      | ownership => rfl
      | setting j _ d _ =>
        have hij : i ≠ j := fun hij => h (congrArg some hij)
        by_cases hi : k = i
        · have hj : k ≠ j := hi ▸ hij
          simp [content?, hi, hij]
        · simp [content?, hi]
  · have hflags := ownership_apply (s.apply a) t
    rw [ownership_apply a s, or_right_comm, ← ownership_apply a t, ← ownership_apply (t.apply a) s] at hflags
    exact Bool.eq_iff_iff.2 hflags

/-- of all segments of an option the last one counts -/
theorem content_after (a : Args) (segs : List Segment) (k : Setting) :
    (segs.foldl (fun a s => s.apply a) a).content k = (latest (content? k) segs).getD (a.content k) := by
  have hread : some ((segs.foldl (fun a s => s.apply a) a).content k) =
      (latest (content? k) segs).or (some (a.content k)) := by
    refine read_foldl (fun _ => True) (fun a : Args => some (a.content k)) (fun _ _ _ => trivial) ?_ trivial segs
    intro a s _
    rw [content_apply, Option.or_some]
  rw [Option.or_some] at hread
  exact Option.some.inj hread

theorem ownership_after (a : Args) (segs : List Segment) :
    (segs.foldl (fun a s => s.apply a) a).ownership = true ↔ a.ownership = true ∨ Segment.ownership ∈ segs := by
  induction segs generalizing a with
  | nil => simp
  | cons s segs ih => rw [List.foldl_cons, ih, ownership_apply, List.mem_cons, or_assoc, eq_comm (a := s)]

end Segment

/-! ## Lines -/

/-- what is wrong at the head of what is left of a line, when no segment stands there -/
inductive Offends : List String → ArgError → Prop
  | unknown {token : String} {rest : List String} (hflag : token ≠ ownershipToken)
      (hoption : ∀ k : Setting, token ≠ k.token) : Offends (token :: rest) (.unknown token)
  | missingValue (k : Setting) : Offends [k.token] (.missingValue k.token)
  | invalid {k : Setting} {value : String} {rest : List String} {e : ArgError} (hvalue : k.Rejects value e) :
      Offends (k.token :: value :: rest) e

namespace Args

open Segment (spell)

variable {k : Setting} {value : String} {tokens rest : List String} {e : ArgError}

theorem parseFrom_segment (a : Args) (s : Segment) (rest : List String) :
    a.parseFrom (s.tokens ++ rest) = (s.apply a).parseFrom rest := by
  cases s with
  | ownership => simp [Segment.tokens, Segment.apply, parseFrom]
  | setting k value c valid =>
    simp [Segment.tokens, Segment.apply, parseFrom, k.token_ne_ownership, Setting.ofToken?_token,
      set_eq_of_reads valid]

theorem parseFrom_spell (a : Args) (segs : List Segment) (rest : List String) :
    a.parseFrom (spell segs ++ rest) = (segs.foldl (fun a s => s.apply a) a).parseFrom rest := by
  induction segs generalizing a with
  | nil => rfl
  | cons s segs ih => rw [Segment.spell_cons, List.append_assoc, parseFrom_segment, ih, List.foldl_cons]

theorem parseFrom_offends (h : Offends rest e) (a : Args) : a.parseFrom rest = .error e := by
  cases h with
  | unknown hflag hoption => simp [parseFrom, hflag, Setting.ofToken?_eq_none_iff.2 hoption]
  | missingValue k => simp [parseFrom, k.token_ne_ownership, Setting.ofToken?_token]
  | invalid hvalue =>
    simp [parseFrom, Setting.token_ne_ownership, Setting.ofToken?_token, set_eq_of_rejects hvalue]

/-- after the segments that stand at its front a line is at its end, or something stands there that is no segment -/
theorem exists_segments (tokens : List String) :
    ∃ segs rest, spell segs ++ rest = tokens ∧ (rest = [] ∨ ∃ e, Offends rest e) := by
  -- the cases are those of the reader, whatever it has read so far
  fun_induction parseFrom {} tokens with
  | case1 => exact ⟨[], [], rfl, .inl rfl⟩
  | case2 _ _ ih =>
    obtain ⟨segs, rest, rfl, hstop⟩ := ih
    exact ⟨.ownership :: segs, rest, rfl, hstop⟩
  | case3 _ token rest hflag hnone =>
    exact ⟨[], token :: rest, rfl, .inr ⟨_, .unknown hflag (Setting.ofToken?_eq_none_iff.1 hnone)⟩⟩
  | case4 _ token _ k htoken =>
    obtain rfl := Setting.token_of_ofToken? htoken
    exact ⟨[], [k.token], rfl, .inr ⟨_, .missingValue k⟩⟩
  | case5 a token _ k htoken value rest e hset =>
    obtain rfl := Setting.token_of_ofToken? htoken
    refine ⟨[], k.token :: value :: rest, rfl, ?_⟩
    rcases k.reads_or_rejects value with ⟨c, hc⟩ | ⟨e', he'⟩
    · rw [set_eq_of_reads hc] at hset
      cases hset
    · exact .inr ⟨e', .invalid he'⟩
  | case6 a token _ k htoken value _ a' hset ih =>
    obtain rfl := Setting.token_of_ofToken? htoken
    obtain ⟨segs, rest, rfl, hstop⟩ := ih
    rcases k.reads_or_rejects value with ⟨c, hc⟩ | ⟨e, he⟩
    · exact ⟨.setting k value c hc :: segs, rest, rfl, hstop⟩
    · rw [set_eq_of_rejects he] at hset
      cases hset

theorem parse_spell (segs : List Segment) : parse (spell segs) = .ok (segs.foldl (fun a s => s.apply a) {}) := by
  have hread := parseFrom_spell {} segs []
  rwa [List.append_nil] at hread

theorem parse_spell_offends (segs : List Segment) (h : Offends rest e) : parse (spell segs ++ rest) = .error e := by
  rw [parse, parseFrom_spell, parseFrom_offends h]

theorem parse_eq_error_iff :
    parse tokens = .error e ↔ ∃ segs rest, spell segs ++ rest = tokens ∧ Offends rest e := by
  constructor
  · intro herror
    obtain ⟨segs, rest, rfl, rfl | ⟨e', he'⟩⟩ := exists_segments tokens
    · rw [List.append_nil, parse_spell] at herror
      cases herror
    · rw [parse_spell_offends segs he'] at herror
      cases herror
      exact ⟨segs, rest, rfl, he'⟩
  · rintro ⟨segs, rest, rfl, he⟩
    exact parse_spell_offends segs he

theorem parse_ok_iff : (∃ a, parse tokens = .ok a) ↔ ∃ segs, spell segs = tokens := by
  constructor
  · rintro ⟨a, ha⟩
    obtain ⟨segs, rest, rfl, rfl | ⟨e, he⟩⟩ := exists_segments tokens
    · exact ⟨segs, (List.append_nil _).symm⟩
    · rw [parse_spell_offends segs he] at ha
      cases ha
  · rintro ⟨segs, rfl⟩
    exact ⟨_, parse_spell segs⟩

/-- two segments of two options that stand side by side may change places -/
theorem parse_exchange {s t : Segment} (hst : s.option ≠ t.option) (before : List Segment) (rest : List String) :
    parse (spell (before ++ [t, s]) ++ rest) = parse (spell (before ++ [s, t]) ++ rest) := by
  simp only [parse, parseFrom_spell, List.foldl_append, List.foldl_cons, List.foldl_nil, Segment.apply_comm hst]

/-- the wording for a value that is not valid begins with the option -/
theorem message_of_rejects (h : k.Rejects value e) : ∃ detail, e.message = "invalid " ++ k.name ++ ": " ++ detail := by
  cases h with
  | @number _ _ _ reason hk hread =>
    refine ⟨"ParseIntError \x7b kind: " ++ reason.name ++ " \x7d", ?_⟩
    unfold ArgError.message
    apply String.toList_injective
    simp [toString]
  | accelerator hx =>
    refine ⟨"AcceleratorParseError(" ++ Text.quoted value ++ ")", ?_⟩
    unfold ArgError.message
    apply String.toList_injective
    simp [Setting.name]

/-! ## The grammar -/

/-- The reader accepts the lines that are made of segments and no other. What it then holds for an option comes from the
last segment of the option, or is the default if there is none. Any other line is refused for what stands after its
leading segments, in words that begin with what is wrong. Segments of different options may stand in either order. -/
theorem parse_grammar (tokens : List String) :
    ((∃ a, parse tokens = .ok a) ↔ ∃ segs, spell segs = tokens) ∧
    (∀ segs, spell segs = tokens → ∃ a, parse tokens = .ok a ∧
      (∀ k, a.content k = (latest (Segment.content? k) segs).getD (({} : Args).content k)) ∧
      (a.ownership = true ↔ Segment.ownership ∈ segs)) ∧
    (∀ e, parse tokens = .error e ↔ ∃ segs rest, spell segs ++ rest = tokens ∧ Offends rest e) ∧
    (∀ token, (ArgError.unknown token).message = "unknown arg: " ++ token ∧
      (ArgError.missingValue token).message = token ++ " needs a value") ∧
    (∀ (k : Setting) value e, k.Rejects value e → (∀ c, ¬k.Reads value c) ∧
      ∃ detail, e.message = "invalid " ++ k.name ++ ": " ++ detail) ∧
    ∀ before (s t : Segment) rest, s.option ≠ t.option → spell (before ++ [s, t]) ++ rest = tokens →
      parse (spell (before ++ [t, s]) ++ rest) = parse tokens := by
  refine ⟨parse_ok_iff, ?_, fun e => parse_eq_error_iff, fun token => ⟨rfl, rfl⟩, ?_, ?_⟩
  · rintro segs rfl
    refine ⟨_, parse_spell segs, fun k => Segment.content_after {} segs k, ?_⟩
    rw [Segment.ownership_after]
    simp
  · intro k value e he
    exact ⟨he.not_reads, message_of_rejects he⟩
  · rintro before s t rest hst rfl
    exact parse_exchange hst before rest

/-- a value may look like an option, and the second width takes the place of the first -/
theorem parse_grammar_overridden :
    ∃ a, parse ["--device", "--ownership", "--width", "+007", "--ownership", "--width", "9"] = .ok a ∧
      a.content .device = .text "--ownership" ∧ a.content .width = .number 9 ∧ a.content .height = .number 19 ∧
      a.ownership = true := by
  have hseven : Text.Numeral Size.limit "+007" 7 := ⟨['0', '0', '7'], by decide, .inr rfl, by simp, rfl, by decide⟩
  have hnine : Text.Numeral Size.limit "9" 9 := ⟨['9'], by decide, .inl rfl, by simp, rfl, by decide⟩
  obtain ⟨-, hread, -⟩ :=
    parse_grammar ["--device", "--ownership", "--width", "+007", "--ownership", "--width", "9"]
  obtain ⟨a, ha, hcontent, hflag⟩ := hread
    [.setting .device "--ownership" _ (.device "--ownership"), .setting .width "+007" _ (.number rfl hseven), .ownership,
      .setting .width "9" _ (.number rfl hnine)] rfl
  exact ⟨a, ha, hcontent .device, hcontent .width, hcontent .height, hflag.2 (by simp)⟩

end Args

end BatchEval.Bench
