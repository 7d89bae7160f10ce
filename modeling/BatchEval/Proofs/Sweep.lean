/-
A sweep from its command line to its exit code. Whatever can go wrong goes wrong before the first line is written; once
the rig stands, every evaluation of every batch size succeeds, whatever the noise and the clock. The verbosity matters in
one place: an arena whose bytes are told must have bytes that can be counted.

- `Stage`, `Stage.first?`: the places where the program can end early, in its order, by exact numbers.
- `Settles`, `rigFor_settles`: the steps up to the rig succeed or end exactly as the numbers say.
- `Rig.Ready`, `Rig.Ready.round`, `Rig.Ready.foldlM_round`: a rig that is ready is ready again after any evaluations.
- `run_sweep`, `firstColumn_line`: the lines of a sweep, one for each power of two and beginning with it.
- `first?_eq_none_iff`: which command lines get as far as a line.
- `run_completes`: the program as a whole.
-/
import Mathlib.Algebra.Group.Nat.Defs
import BatchEval.Bench.Sweep
import BatchEval.Proofs.Verbosity

namespace BatchEval.Bench

/-! ## Stages -/

namespace Args

/-- the cells of the board -/
def cells (args : Args) : Nat := args.width * args.height

/-- the misc channels of the version, none if it is not supported -/
def misc (args : Args) : Nat := ((Channels.ofVersion args.version).map Channels.misc).getD 0

/-- the words of all lanes in one row of an arena, none if the version is not supported -/
def rowWords (args : Args) : Nat :=
  ((Channels.ofVersion args.version).map fun c => 24 * args.cells + c.global + c.score + 4).getD 0

end Args

/-- where the program can end before it writes a line -/
inductive Stage
  | arguments
  | version
  | extents
  | device
  | provider
  | arena
  | records
deriving DecidableEq

namespace Stage

/-- the stages that its arguments decide, in its order -/
def ordered : List Stage := [version, extents, device, provider, arena, records]

/-- the exit code of a program that ends there -/
def code : Stage → Nat
  | version | device => 1
  | arguments | extents | provider | arena | records => 101

/-- whether the program ends there with these arguments; the bytes of an arena are counted only if they are shown -/
def ends (v : Verbosity) (args : Args) : Stage → Bool
  | arguments => false
  | version => decide (args.version < oldestVersion ∨ newestVersion < args.version)
  | extents => decide (args.maxBatch = 0 ∨ args.width = 0 ∨ args.height = 0 ∨ Size.limit ≤ args.cells + 1)
  | device => decide (args.device ≠ Uniform.provider.name)
  | provider => decide (Size.maxWords < max (2 * (args.cells + 1)) args.misc * args.maxBatch)
  | arena => decide (Size.maxWords < 22 * args.cells * args.maxBatch ∨
      LogLevel.debug.shownAt v ∧ Size.limit ≤ args.rowWords * args.maxBatch * 4)
  | records => decide (Size.maxBytes < args.maxBatch * Prediction.bytes ∨ Size.maxWords < args.cells + 1)

/-- the first stage that a command line does not get past -/
def first? (v : Verbosity) (tokens : List String) : Option Stage :=
  match Args.parse tokens with
  | .error _ => some arguments
  | .ok args => ordered.find? (ends v args)

end Stage

/-! ## Steps that stages decide -/

/-- the step ends the program at the first of the stages that ends it, and gives a value as asked if none does -/
def Settles {α : Type} (v : Verbosity) (args : Args) (stages : List Stage) (x : Except Exit α) (Q : α → Prop) : Prop :=
  match stages.find? (Stage.ends v args) with
  | some s => ∃ e, x = .error e ∧ e.code = s.code
  | none => ∃ a, x = .ok a ∧ Q a

namespace Settles

variable {α β : Type} {v : Verbosity} {args : Args} {s : Stage} {stages later : List Stage} {Q : α → Prop} {R : β → Prop}

theorem of_ok {x : Except Exit α} {a : α} (hx : x = .ok a) (ha : Q a) : Settles v args [] x Q := ⟨a, hx, ha⟩

theorem cons {x : Except Exit α} (hends : s.ends v args = true → ∃ e, x = .error e ∧ e.code = s.code)
    (hpasses : s.ends v args = false → Settles v args stages x Q) : Settles v args (s :: stages) x Q := by
  unfold Settles
  cases hs : s.ends v args with
  | true =>
    rw [List.find?_cons_of_pos hs]
    exact hends hs
  | false =>
    rw [List.find?_cons_of_neg (by simp [hs])]
    exact hpasses hs

/-- a step that may end with a fault -/
theorem of_fault {x : Except Fault α} (hcode : s.code = 101) (hx : (∃ a, x = .ok a) ↔ ¬s.ends v args = true)
    (hQ : ∀ a, x = .ok a → Q a) : Settles v args [s] (x.mapError Exit.ofFault) Q := by
  cases x with
  | error f =>
    refine cons (fun _ => ⟨Exit.ofFault f, rfl, hcode.symm⟩) fun hs => ?_
    obtain ⟨a, ha⟩ := hx.2 (by simp [hs])
    cases ha
  | ok a => exact cons (fun hs => absurd hs (hx.1 ⟨a, rfl⟩)) fun _ => of_ok rfl (hQ a rfl)

theorem bind {x : Except Exit α} {f : α → Except Exit β} (hx : Settles v args stages x Q)
    (hf : ∀ a, Q a → Settles v args later (f a) R) : Settles v args (stages ++ later) (x >>= f) R := by
  unfold Settles at hx ⊢
  rw [List.find?_append]
  cases hfind : stages.find? (Stage.ends v args) with
  | some s =>
    rw [hfind] at hx
    obtain ⟨e, he, hcode⟩ := hx
    exact ⟨e, by rw [he]; rfl, hcode⟩
  | none =>
    rw [hfind] at hx
    obtain ⟨a, ha, hQ⟩ := hx
    rw [ha]
    exact hf a hQ

end Settles

/-! ## Providing -/

/-- a handle for the arguments -/
structure Asked (args : Args) (h : Handle) : Prop where
  rows_eq : h.rows = args.maxBatch
  x_eq : h.x = args.width
  y_eq : h.y = args.height
  channels_eq : Channels.ofVersion args.version = some h.model.channels

variable {v : Verbosity} {args : Args} {h : Handle} {u : Uniform}

namespace Asked

theorem pos (ha : Asked args h) : 0 < args.maxBatch ∧ 0 < args.width ∧ 0 < args.height := by
  rw [← ha.rows_eq, ← ha.x_eq, ← ha.y_eq]
  exact ⟨h.rows_pos, h.x_pos, h.y_pos⟩

theorem area_eq (ha : Asked args h) : h.area = args.cells := by rw [Handle.area, ha.x_eq, ha.y_eq, Args.cells]

theorem policySize_eq (ha : Asked args h) : h.policySize = args.cells + 1 := congrArg (· + 1) ha.area_eq

theorem misc_eq (ha : Asked args h) : h.model.channels.misc = args.misc := by
  rw [Args.misc, ha.channels_eq]
  rfl

theorem widest_eq (ha : Asked args h) :
    Uniform.widest h.rawWidths * h.rows = max (2 * (args.cells + 1)) args.misc * args.maxBatch := by
  rw [Uniform.widest_rawWidths, ha.policySize_eq, ha.misc_eq, ha.rows_eq]

theorem rowWords_eq (ha : Asked args h) : h.model.rowWords args.width args.height = args.rowWords := by
  rw [Args.rowWords, ha.channels_eq]
  rfl

end Asked

theorem model_settles (v : Verbosity) (args : Args) :
    Settles v args [.version] ((Descriptor.ofVersion "bench" args.version).value.mapError fun e => Exit.refusal e.message)
      fun model => Channels.ofVersion args.version = some model.channels := by
  refine Settles.cons (fun hends => ?_) fun hpasses => ?_
  · have hnone := Channels.ofVersion_eq_none_iff.2 (of_decide_eq_true hends)
    rw [Descriptor.ofVersion_error hnone]
    exact ⟨_, rfl, rfl⟩
  · cases hversion : Channels.ofVersion args.version with
    | none => exact absurd (Channels.ofVersion_eq_none_iff.1 hversion) (of_decide_eq_false hpasses)
    | some c =>
      have hmodel : ∃ d, (Descriptor.ofVersion "bench" args.version).value = .ok d ∧ d.channels = c :=
        Descriptor.ofVersion_ok hversion
      obtain ⟨model, hmodel, hchannels⟩ := hmodel
      refine Settles.of_ok (by rw [hmodel]; rfl) ?_
      rw [hchannels]

theorem handle_settles {context : Context} {options : Options} {model : Descriptor}
    (hchannels : Channels.ofVersion args.version = some model.channels) :
    Settles v args [.extents]
      ((Handle.create context model args.maxBatch args.width args.height options).value.mapError Exit.ofFault)
      (Asked args) := by
  refine Settles.of_fault rfl ?_ fun h hh => ?_
  · simp only [Handle.create_eq_ok_iff, Stage.ends, decide_eq_true_eq, not_or, Nat.not_le]
    constructor
    · intro hok
      obtain ⟨_, hrows, hx, hy, hpolicy, -⟩ := hok
      exact ⟨Nat.ne_of_gt hrows, Nat.ne_of_gt hx, Nat.ne_of_gt hy, hpolicy⟩
    · intro hcond
      obtain ⟨hrows, hx, hy, hpolicy⟩ := hcond
      exact ⟨_, Nat.pos_of_ne_zero hrows, Nat.pos_of_ne_zero hx, Nat.pos_of_ne_zero hy, hpolicy, rfl⟩
  · obtain ⟨_, _, _, _, rfl⟩ := Handle.create_eq_ok_iff.1 hh
    exact ⟨rfl, rfl, rfl, hchannels⟩

theorem uniform_settles (ha : Asked args h) :
    Settles v args [.provider] ((Uniform.ofHandle h).mapError Exit.ofFault) fun u => Uniform.ofHandle h = .ok u := by
  refine Settles.of_fault rfl ?_ fun _ hu => hu
  simp only [Uniform.ofHandle_eq_ok_iff, ha.widest_eq, Stage.ends, decide_eq_true_eq, Nat.not_lt]
  exact ⟨fun ⟨_, hwords, _⟩ => hwords, fun hwords => ⟨_, hwords, rfl⟩⟩

/-- the program gets to its provider as the numbers say -/
theorem provide_settles (v : Verbosity) (args : Args) :
    Settles v args [.version, .extents, .device, .provider] (provide args) fun (h, u) =>
      Asked args h ∧ Uniform.ofHandle h = .ok u := by
  unfold provide
  refine (model_settles v args).bind fun model hchannels => (handle_settles hchannels).bind fun h hasked => ?_
  refine Settles.cons (fun hends => ?_) fun hpasses => ?_
  · rw [if_neg (of_decide_eq_true hends)]
    exact ⟨_, rfl, rfl⟩
  · rw [if_pos (Decidable.not_not.1 (of_decide_eq_false hpasses))]
    exact (uniform_settles hasked).bind fun u hu => Settles.of_ok rfl ⟨hasked, hu⟩

/-! ## Assembling -/

namespace Rig

/-- all evaluations of the rig's handle go well -/
structure Ready (r : Rig) : Prop where
  provider : Uniform.ofHandle r.handle = .ok r.provider
  arena : r.arena.MadeFor r.handle.model
  x_eq : r.arena.x = r.handle.x
  y_eq : r.arena.y = r.handle.y
  rows_eq : r.arena.rows = r.handle.rows
  records : Prediction.FrontFits r.handle r.handle.rows r.records

end Rig

theorem Noise.size_noisy (noise : Nat → Word) (places : Nat) (old : Array Word) :
    (noisy noise places old).size = old.size := Array.size_mapIdx

/-- the rows of an arena are there to be written, and it stays an arena of its model -/
theorem Noise.fill_ok {z : Noise} {a : Arena} {model : Descriptor} {rows : Nat} (ha : a.MadeFor model)
    (hrows : rows ≤ a.rows) :
    ∃ b, z.fill a rows = .ok b ∧ b.MadeFor model ∧ b.rows = a.rows ∧ b.x = a.x ∧ b.y = a.y := by
  have hborrow : (List.range rows).forM (borrow a) = .ok () := by
    refine Checked.forM_eq_ok fun r hr => ?_
    have hr' : r < a.rows := Nat.lt_of_lt_of_le (List.mem_range.1 hr) hrows
    simp only [borrow, Arena.row_eq_ok ha hr', Checked.ok_bind]
    rfl
  unfold fill
  rw [hborrow]
  refine ⟨_, rfl, { ha with size_eq := fun k => ?_ }, rfl, rfl, rfl⟩
  have hsize := ha.size_eq k
  cases k with
  | spatial => exact (size_noisy _ _ _).trans hsize
  | global => exact (size_noisy _ _ _).trans hsize
  | policy => exact hsize
  | value => exact hsize
  | score => exact hsize
  | ownership => exact hsize

theorem arena_settles (ha : Asked args h) :
    Settles v args [.arena] ((Arena.ofHandle v h).value.mapError Exit.ofFault) fun a =>
      (Arena.allocate v h.model h.rows h.x h.y).value = .ok a := by
  refine Settles.of_fault rfl ?_ fun _ ha => ha
  obtain ⟨hrows, hx, hy⟩ := ha.pos
  rw [Arena.ofHandle, Arena.allocate_shown_ok_iff, ha.rows_eq, ha.x_eq, ha.y_eq, ha.rowWords_eq]
  simp only [Stage.ends, decide_eq_true_eq, not_or, not_and, Nat.not_lt, Nat.not_le]
  exact ⟨fun ⟨⟨_, _, _, hwords⟩, hbytes⟩ => ⟨hwords, hbytes⟩, fun ⟨hwords, hbytes⟩ => ⟨⟨hrows, hx, hy, hwords⟩, hbytes⟩⟩

theorem records_settles (ha : Asked args h) (owned : Bool) :
    Settles v args [.records] ((Prediction.blankBatch h owned).mapError Exit.ofFault)
      (Prediction.FrontFits h h.rows) := by
  refine Settles.of_fault rfl ?_ fun ps hps => ?_
  · simp only [Prediction.blankBatch_eq_ok_iff, ha.policySize_eq, ha.rows_eq, Stage.ends, decide_eq_true_eq, not_or,
      Nat.not_lt]
    exact ⟨fun ⟨_, hbytes, hwords, _⟩ => ⟨hbytes, hwords⟩, fun ⟨hbytes, hwords⟩ => ⟨_, hbytes, hwords, rfl⟩⟩
  · obtain ⟨-, -, rfl⟩ := Prediction.blankBatch_eq_ok_iff.1 hps
    intro i hi
    refine ⟨_, ?_, Prediction.zeroed_fits h owned⟩
    rw [List.getElem?_replicate, if_pos hi]

/-- the rest is assembled as the numbers say, and then the rig is ready -/
theorem assemble_settles (z : Noise) (ha : Asked args h) (hu : Uniform.ofHandle h = .ok u) (owned : Bool) :
    Settles v args [.arena, .records] (assemble v z h u owned) fun rig => rig.Ready ∧ rig.handle.rows = args.maxBatch := by
  unfold assemble
  refine (arena_settles ha).bind fun blank halloc => ?_
  obtain ⟨hblank, hrows, hx, hy⟩ := Arena.allocate_madeFor halloc
  obtain ⟨a, hfill, hmade, hrows', hx', hy'⟩ := Noise.fill_ok (z := z) hblank (Nat.le_of_eq hrows.symm)
  rw [hfill]
  refine (records_settles ha owned).bind fun ps hps => Settles.of_ok rfl ⟨⟨hu, hmade, ?_, ?_, ?_, hps⟩, ha.rows_eq⟩
  · exact hx'.trans hx
  · exact hy'.trans hy
  · exact hrows'.trans hrows

/-- the rig that the arguments ask for -/
def rigFor (v : Verbosity) (z : Noise) (args : Args) : Except Exit Rig := do
  let (handle, provider) ← provide args
  assemble v z handle provider args.ownership

theorem rigFor_settles (v : Verbosity) (z : Noise) (args : Args) :
    Settles v args Stage.ordered (rigFor v z args) fun rig => rig.Ready ∧ rig.handle.rows = args.maxBatch :=
  (provide_settles v args).bind fun _ hprovided => assemble_settles z hprovided.1 hprovided.2 args.ownership

/-! ## Evaluations -/

namespace Rig

variable {r : Rig} {n : Nat}

/-- a rig that is ready evaluates every batch size, and is ready again -/
theorem Ready.round (hr : r.Ready) (hpos : 0 < n) (hn : n ≤ r.handle.rows) :
    ∃ r', r.round n = .ok r' ∧ r'.Ready ∧ r'.handle = r.handle := by
  have hsuits : r.arena.Suits r.handle.model r.handle n :=
    ⟨hr.x_eq, hr.y_eq, Nat.le_of_eq hr.rows_eq, rfl, rfl, hpos, by rwa [hr.rows_eq]⟩
  obtain ⟨hout, hstate, hrecords⟩ := evaluate_uniform hr.provider hr.arena hsuits hn hr.records
  let e := evaluate Uniform.provider r.provider r.handle r.arena n r.records
  refine ⟨{ r with provider := e.state, records := e.records }, ?_, ?_, rfl⟩
  · simp only [Rig.round, hout, e]
  · exact { hr with provider := hr.provider.trans (congrArg Except.ok hstate.symm), records := hrecords }

theorem Ready.foldlM_round {sizes : List Nat} (hr : r.Ready) (hsizes : ∀ n ∈ sizes, 0 < n ∧ n ≤ r.handle.rows) :
    ∃ r', sizes.foldlM Rig.round r = .ok r' ∧ r'.Ready ∧ r'.handle = r.handle := by
  induction sizes generalizing r with
  | nil => exact ⟨r, rfl, hr, rfl⟩
  | cons n sizes ih =>
    obtain ⟨hpos, hn⟩ := hsizes n List.mem_cons_self
    obtain ⟨r', hround, hr', hhandle⟩ := hr.round hpos hn
    have hlater : ∀ m ∈ sizes, 0 < m ∧ m ≤ r'.handle.rows := by
      intro m hm
      rw [hhandle]
      exact hsizes m (List.mem_cons_of_mem n hm)
    obtain ⟨r'', hfold, hr'', hhandle'⟩ := ih hr' hlater
    refine ⟨r'', ?_, hr'', hhandle'.trans hhandle⟩
    rw [List.foldlM_cons, hround]
    exact hfold

theorem rounds_eq_foldlM (n count : Nat) (r : Rig) :
    rounds n count r = (List.replicate count n).foldlM Rig.round r := by
  induction count generalizing r with
  | zero => rfl
  | succ count ih =>
    rw [List.replicate_succ, List.foldlM_cons, rounds]
    cases r.round n with
    | error e => rfl
    | ok r' => exact ih r'

theorem Ready.rounds (hr : r.Ready) (hpos : 0 < n) (hn : n ≤ r.handle.rows) (count : Nat) :
    ∃ r', Rig.rounds n count r = .ok r' ∧ r'.Ready ∧ r'.handle = r.handle := by
  rw [rounds_eq_foldlM]
  refine hr.foldlM_round fun m hm => ?_
  rw [List.eq_of_mem_replicate hm]
  exact ⟨hpos, hn⟩

/-- the rows of an arena can be had, so twice as many can be counted -/
theorem Ready.double_lt (hr : r.Ready) : r.handle.rows * 2 < Size.limit := by
  have hrows := hr.arena.rows_le
  rw [hr.rows_eq] at hrows
  have hlimit : Size.maxWords * 2 < Size.limit := by decide
  omega

end Rig

/-! ## The lines of a sweep -/

/-- the first column of a line: its text up to the next blank, without the blanks before it -/
def firstColumn (line : String) : List Char := (line.toList.dropWhile (· == ' ')).takeWhile (· != ' ')

theorem takeWhile_between_blanks {text : List Char} (hne : text ≠ []) (htext : ∀ c ∈ text, c ≠ ' ') (n : Nat)
    (rest : List Char) :
    ((List.replicate n ' ' ++ (text ++ ' ' :: rest)).dropWhile (· == ' ')).takeWhile (· != ' ') = text := by
  obtain ⟨c, cs, rfl⟩ := List.exists_cons_of_ne_nil hne
  have hc : ¬(c == ' ') = true := by simpa using htext c List.mem_cons_self
  have hpass : ∀ d ∈ c :: cs, (d != ' ') = true := fun d hd => by simpa using htext d hd
  rw [List.dropWhile_append_of_pos (by simp), List.cons_append, List.dropWhile_cons_of_neg (p := (· == ' ')) hc,
    ← List.cons_append, List.takeWhile_append_of_pos hpass]
  simp

theorem firstColumn_columns {batch : String} (hne : batch.toList ≠ []) (hbatch : ∀ c ∈ batch.toList, c ≠ ' ')
    (call rate : String) : firstColumn (columns batch call rate) = batch.toList := by
  have hline : (columns batch call rate).toList = List.replicate (6 - batch.length + 2) ' ' ++
      (batch.toList ++ ' ' :: (alignRight 12 call ++ " " ++ alignRight 12 rate).toList) := by
    simp [columns, alignRight, List.replicate_succ]
  rw [firstColumn, hline]
  exact takeWhile_between_blanks hne hbatch _ _

/-- a line of the table begins with its batch size, whatever was measured -/
theorem firstColumn_rowText (batch : Nat) (perCall : Float) :
    firstColumn (rowText batch perCall) = (toString batch).toList := by
  have hdigits : (toString batch).toList = Nat.toDigits 10 batch := by
    rw [Nat.toString_eq_ofList_toDigits, String.toList_ofList]
  refine firstColumn_columns ?_ (fun c hc hblank => ?_) _ _
  · rw [hdigits]
    exact Nat.toDigits_ne_nil
  · rw [hdigits] at hc
    have hdigit := Nat.isDigit_of_mem_toDigits (by decide) (by decide) hc
    rw [hblank] at hdigit
    cases hdigit

/-- the line of the `k`-th batch size: the clock is read once before the timed evaluations and once after them -/
def line (clock : Nat → Nat) (iterations k : Nat) : String :=
  rowText (2 ^ k) (perCall (clock (2 * k)) (clock (2 * k + 1)) iterations)

theorem firstColumn_line (clock : Nat → Nat) (iterations k : Nat) :
    firstColumn (line clock iterations k) = (toString (2 ^ k)).toList := firstColumn_rowText _ _

variable {clock : Nat → Nat} {t : Transcript} {v : Verbosity} {z : Noise} {tokens : List String}

theorem run_forM_print (lines : List String) :
    (lines.forM (Transcript.terminal clock).print).run t = ((), { t with output := t.output ++ lines }) := by
  induction lines generalizing t with
  | nil =>
    rw [List.append_nil]
    rfl
  | cons line lines ih =>
    have hlater := @ih { t with output := t.output ++ [line] }
    rw [List.append_assoc] at hlater
    exact hlater

/-- from the `k`-th batch size on, the sweep writes one line for each that is left -/
theorem run_sweep {largest iterations count : Nat} (hcount : ∀ k, k < count ↔ 2 ^ k ≤ largest)
    (hfit : largest * 2 < Size.limit) {m k : Nat} (hk : k + m = count) (ht : t.readings = 2 * k) {r : Rig} (hr : r.Ready)
    (hrows : r.handle.rows = largest) :
    (sweep (Transcript.terminal clock) largest iterations r (2 ^ k)).run t =
      (0, { t with output := t.output ++ (List.range' k m).map (line clock iterations), readings := 2 * count }) := by
  induction m generalizing k r t with
  | zero =>
    have hover : ¬(0 < 2 ^ k ∧ 2 ^ k ≤ largest) := fun ⟨_, hle⟩ => absurd ((hcount k).2 hle) (by omega)
    have hcount : 2 * count = t.readings := by omega
    rw [sweep, if_neg hover, hcount, List.range'_zero, List.map_nil, List.append_nil]
    rfl
  | succ m ih =>
    have hpos : 0 < 2 ^ k := Nat.two_pow_pos k
    have hle : 2 ^ k ≤ largest := (hcount k).1 (by omega)
    obtain ⟨r', hround, hr', hhandle⟩ := hr.round hpos (by rwa [hrows])
    obtain ⟨r'', hrounds, hr'', hhandle'⟩ := hr'.rounds hpos (by rwa [hhandle, hrows]) iterations
    have hdouble : Size.mul (2 ^ k) 2 = .ok (2 ^ k * 2) := Size.mul_eq_ok_iff.2 ⟨by omega, rfl⟩
    rw [sweep, if_pos ⟨hpos, hle⟩]
    simp only [hround, hrounds, hdouble, ← Nat.pow_succ]
    have hlater := @ih { t with output := t.output ++ [line clock iterations k], readings := t.readings + 2 } (k + 1)
      (by omega) (by simp only [ht]; omega) r'' hr'' (by rw [hhandle', hhandle, hrows])
    rw [List.append_assoc] at hlater
    rw [List.range'_succ, List.map_cons]
    refine Eq.trans ?_ hlater
    -- the clock was read twice for each batch size before this one
    unfold line
    rw [← ht]
    rfl

/-- the powers of two up to a number are an initial stretch -/
theorem exists_count {n : Nat} (hn : 0 < n) : ∃ count, ∀ k, k < count ↔ 2 ^ k ≤ n := by
  refine ⟨n.log2 + 1, fun k => ?_⟩
  rw [Nat.lt_succ_iff, Nat.le_log2 (Nat.ne_of_gt hn)]

/-! ## The program -/

/-- a program that cannot get its rig writes no line, whatever it has reported before -/
theorem run_of_error (clock : Nat → Nat) {e : Exit} (hparse : Args.parse tokens = .ok args)
    (he : rigFor v z args = .error e) :
    (Transcript.ofNoise v z clock tokens).1 = e.code ∧ (Transcript.ofNoise v z clock tokens).2.output = [] := by
  unfold Transcript.ofNoise run
  rcases Checked.bind_eq_error_iff.1 he with hprovide | ⟨⟨h, u⟩, hprovide, hassemble⟩
  · simp only [hparse, hprovide]
    exact ⟨rfl, rfl⟩
  · have hassemble : assemble v z h u args.ownership = .error e := hassemble
    simp only [hparse, hprovide, hassemble]
    cases args.model.isSome <;> exact ⟨rfl, rfl⟩

/-- a program that has its rig writes the head and the lines of the sweep -/
theorem run_of_ready (clock : Nat → Nat) {rig : Rig} {count : Nat} (hparse : Args.parse tokens = .ok args)
    (hrig : rigFor v z args = .ok rig) (hr : rig.Ready) (hrows : rig.handle.rows = args.maxBatch)
    (hfit : args.maxBatch * 2 < Size.limit) (hcount : ∀ k, k < count ↔ 2 ^ k ≤ args.maxBatch) :
    (Transcript.ofNoise v z clock tokens).1 = 0 ∧ (Transcript.ofNoise v z clock tokens).2.output =
      title args :: tableHead ++ (List.range count).map (line clock args.iterations) := by
  have hsweep : ∀ notes : List String,
      (do (title args :: tableHead).forM (Transcript.terminal clock).print
          sweep (Transcript.terminal clock) args.maxBatch args.iterations rig 1).run { diagnostics := notes } =
        (0, { output := title args :: tableHead ++ (List.range count).map (line clock args.iterations),
              diagnostics := notes, readings := 2 * count }) := by
    intro notes
    have hhead := @run_forM_print clock { diagnostics := notes } (title args :: tableHead)
    have hlines := @run_sweep clock { output := title args :: tableHead, diagnostics := notes } args.maxBatch
      args.iterations count hcount hfit count 0 (Nat.zero_add count) rfl rig hr hrows
    rw [List.range_eq_range', StateT.run_bind, hhead]
    exact hlines
  obtain ⟨⟨h, u⟩, hprovide, hassemble⟩ := Checked.bind_eq_ok_iff.1 hrig
  have hassemble : assemble v z h u args.ownership = .ok rig := hassemble
  unfold Transcript.ofNoise run
  simp only [hparse, hprovide, hassemble]
  cases args.model.isSome with
  | false =>
    have hrun := hsweep []
    exact ⟨congrArg Prod.fst hrun, congrArg (·.2.output) hrun⟩
  | true =>
    have hrun := hsweep ["--model ignored with the uniform device"]
    exact ⟨congrArg Prod.fst hrun, congrArg (·.2.output) hrun⟩

theorem Args.misc_le (args : Args) : args.misc ≤ 6 := by
  unfold Args.misc Channels.ofVersion
  split <;> decide

/-- sizes that fit because the spatial lane does -/
theorem sizes_of_spatial {cells rows misc : Nat} (hcells : 0 < cells) (hrows : 0 < rows) (hmisc : misc ≤ 6)
    (hwords : 22 * cells * rows ≤ Size.maxWords) :
    max (2 * (cells + 1)) misc * rows ≤ Size.maxWords ∧ rows * Prediction.bytes ≤ Size.maxBytes ∧
      cells + 1 ≤ Size.maxWords := by
  have hrow : 22 * cells ≤ 22 * cells * rows := Nat.le_mul_of_pos_right _ hrows
  have hcell : 22 * rows ≤ 22 * cells * rows := Nat.mul_le_mul_right rows (by omega)
  have hbytes : 4 * Size.maxWords ≤ Size.maxBytes := by decide
  refine ⟨?_, ?_, by omega⟩
  · calc
      max (2 * (cells + 1)) misc * rows ≤ 22 * cells * rows := Nat.mul_le_mul_right rows (by omega)
      _ ≤ Size.maxWords := hwords
  · show rows * 88 ≤ Size.maxBytes
    omega

/-- the numbers of a command line that gets past every stage: of the sizes only the spatial lane matters, and the bytes of
all lanes where they are shown -/
theorem first?_eq_none_iff : Stage.first? v tokens = none ↔ ∃ args, Args.parse tokens = .ok args ∧
    (oldestVersion ≤ args.version ∧ args.version ≤ newestVersion) ∧ args.device = Uniform.provider.name ∧
    (0 < args.maxBatch ∧ 0 < args.width ∧ 0 < args.height) ∧
    22 * args.cells * args.maxBatch ≤ Size.maxWords ∧
    (LogLevel.debug.shownAt v = true → args.rowWords * args.maxBatch * 4 < Size.limit) := by
  unfold Stage.first?
  cases hparse : Args.parse tokens with
  | error e => simp
  | ok args =>
    have hlimit := Size.maxWords_lt_limit
    simp only [Except.ok.injEq, exists_eq_left', List.find?_eq_none, Stage.ordered, List.mem_cons, List.not_mem_nil,
      or_false, forall_eq_or_imp, forall_eq, Stage.ends, decide_eq_true_eq, not_or, not_and, Nat.not_lt, Nat.not_le,
      ne_eq, Decidable.not_not]
    constructor
    · intro hpasses
      obtain ⟨hversion, ⟨hrows, hx, hy, -⟩, hdevice, -, hwords, -⟩ := hpasses
      exact ⟨hversion, hdevice, ⟨Nat.pos_of_ne_zero hrows, Nat.pos_of_ne_zero hx, Nat.pos_of_ne_zero hy⟩, hwords⟩
    · intro hcond
      obtain ⟨hversion, hdevice, ⟨hrows, hx, hy⟩, hwords, hbytes⟩ := hcond
      obtain ⟨hprovider, hrecords, hpolicy⟩ := sizes_of_spatial (Nat.mul_pos hx hy) hrows args.misc_le hwords
      exact ⟨hversion, ⟨Nat.ne_of_gt hrows, Nat.ne_of_gt hx, Nat.ne_of_gt hy, Nat.lt_of_le_of_lt hpolicy hlimit⟩, hdevice,
        hprovider, ⟨hwords, hbytes⟩, hrecords, hpolicy⟩

/-- **A sweep that begins is finished.** Under every verbosity, noise and clock, a command line ends the program at the first
stage that it does not get past, before any line is written and with the code of that stage. One that gets past all of
them has a rig on which every evaluation of a batch within the capacity succeeds, after any others; no batch size is too
large to be doubled, and the program ends with code zero after its head and one line for each power of two up to the
largest batch, from one on, that begins with it. -/
theorem run_completes (v : Verbosity) (z : Noise) (clock : Nat → Nat) (tokens : List String) :
    match Stage.first? v tokens with
    | some s =>
      (Transcript.ofNoise v z clock tokens).1 = s.code ∧ (Transcript.ofNoise v z clock tokens).2.output = []
    | none => ∃ args rig count, Args.parse tokens = .ok args ∧ rigFor v z args = .ok rig ∧
        (∀ sizes : List Nat, (∀ n ∈ sizes, 0 < n ∧ n ≤ args.maxBatch) → ∃ r, sizes.foldlM Rig.round rig = .ok r) ∧
        (∀ n ≤ args.maxBatch, Size.mul n 2 = .ok (n * 2)) ∧
        (∀ k, k < count ↔ 2 ^ k ≤ args.maxBatch) ∧
        (∀ k, firstColumn (line clock args.iterations k) = (toString (2 ^ k)).toList) ∧
        (Transcript.ofNoise v z clock tokens).1 = 0 ∧ (Transcript.ofNoise v z clock tokens).2.output =
          title args :: tableHead ++ (List.range count).map (line clock args.iterations) := by
  unfold Stage.first?
  cases hparse : Args.parse tokens with
  | error e =>
    unfold Transcript.ofNoise run
    simp only [hparse]
    exact ⟨rfl, rfl⟩
  | ok args =>
    have hsettles := rigFor_settles v z args
    unfold Settles at hsettles
    cases hfind : Stage.ordered.find? (Stage.ends v args) with
    | some s =>
      rw [hfind] at hsettles
      obtain ⟨e, he, hcode⟩ := hsettles
      obtain ⟨hexit, hout⟩ := run_of_error clock hparse he
      simp only [hfind]
      exact ⟨hexit.trans hcode, hout⟩
    | none =>
      rw [hfind] at hsettles
      obtain ⟨rig, hrig, hr, hrows⟩ := hsettles
      have hfit := hr.double_lt
      have hpos := rig.handle.rows_pos
      rw [hrows] at hfit hpos
      obtain ⟨count, hcount⟩ := exists_count hpos
      obtain ⟨hexit, hout⟩ := run_of_ready clock hparse hrig hr hrows hfit hcount
      simp only [hfind]
      refine ⟨args, rig, count, rfl, hrig, ?_, ?_, hcount, firstColumn_line clock args.iterations, hexit, hout⟩
      · intro sizes hsizes
        rw [← hrows] at hsizes
        obtain ⟨r, hfold, -⟩ := hr.foldlM_round hsizes
        exact ⟨r, hfold⟩
      · intro n hn
        exact Size.mul_eq_ok_iff.2 ⟨by omega, rfl⟩

/-- an unsupported version is told before a missing device -/
example : Stage.first? none ["--device", "onnx", "--version", "11"] = some .version := by decide

/-- no argument is needed to get to the lines -/
example : Stage.first? (some .trace) [] = none := by decide

/-- the largest capacity of the smallest board, whose bytes cannot be counted: only telling them ends the program -/
example :
    let tokens := ["--version", "7", "--width", "1", "--height", "1", "--max-batch", "104811045873349725"]
    Stage.first? (some .debug) tokens = some .arena ∧ Stage.first? none tokens = none := by decide

end BatchEval.Bench
