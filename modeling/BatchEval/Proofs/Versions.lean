/-
What the checks of a description decide. The expected counts come from three places: the version table, the score layout
of the version, and two fixed counts. They agree for every version, so a description is told right or wrong from the
version table alone.

- `ScoreLayout.ofVersion_agrees`, `Channels.exists_layout`: the two tables have the same versions and the same counts.
- `Channels.fits_iff`: the counts that fit a version.
- `Descriptor.Refused`, `Descriptor.check_cases`: the first thing that is wrong, and that nothing else is told.
- `declare_exact`: which descriptions are taken, which error tells of every other one, and what a descriptor holds.
-/
import BatchEval.Proofs.Allocation

namespace BatchEval

/-! ## Two tables of versions -/

/-- the table and the score layouts have the same versions, with the same score counts -/
theorem ScoreLayout.ofVersion_agrees (v : Nat) :
    (Channels.ofVersion v).map Channels.score = (ScoreLayout.ofVersion v).map ScoreLayout.channels := by
  unfold Channels.ofVersion
  split
  all_goals first
    | rfl
    | skip
  -- a version that is not in the table has no layout either
  unfold ScoreLayout.ofVersion
  split
  all_goals first
    | rfl
    | contradiction

namespace Channels

variable {v : Nat} {table c : Channels} {layout : ScoreLayout} {k : ChannelKind}

theorem ofVersion_eq_some_iff : (∃ table, Channels.ofVersion v = some table) ↔ 3 ≤ v ∧ v ≤ 10 := by
  rw [← Option.ne_none_iff_exists', ne_eq, ofVersion_eq_none_iff]
  simp only [oldestVersion, newestVersion]
  omega

/-- every row of the table has the fixed counts -/
theorem fixed_of_ofVersion (ht : Channels.ofVersion v = some table) :
    table.value = valueChannels ∧ table.ownership = ownershipChannels := by
  unfold Channels.ofVersion at ht
  split at ht
  all_goals first
    | cases ht; exact ⟨rfl, rfl⟩
    | cases ht

/-- the counts that a version asks for are those of its row in the table -/
theorem expected_eq (hl : ScoreLayout.ofVersion v = some layout) (ht : Channels.ofVersion v = some table)
    (k : ChannelKind) : Channels.expected table layout k = table.count k := by
  obtain ⟨hvalue, hownership⟩ := fixed_of_ofVersion ht
  have hscore : some table.score = some layout.channels := by
    have hagree := ScoreLayout.ofVersion_agrees v
    rwa [ht, hl] at hagree
  cases k with
  | spatial => rfl
  | global => rfl
  | value => exact hvalue.symm
  | ownership => exact hownership.symm
  | score => exact (Option.some.inj hscore).symm

/-- a version of the table has a layout -/
theorem exists_layout (ht : Channels.ofVersion v = some table) : ∃ layout, ScoreLayout.ofVersion v = some layout := by
  have hagree := ScoreLayout.ofVersion_agrees v
  rw [ht] at hagree
  obtain ⟨layout, hl, -⟩ := Option.map_eq_some_iff.1 hagree.symm
  exact ⟨layout, hl⟩

/-- the counts that fit a version are told from the table alone -/
theorem fits_iff : (∃ layout, c.Fits v layout) ↔
    (∃ table, Channels.ofVersion v = some table ∧ ∀ k, c.count k = table.count k) ∧ c.score ≤ c.misc := by
  constructor
  · intro hfits
    obtain ⟨layout, hl, ⟨table, ht, hcount⟩, hmisc⟩ := hfits
    exact ⟨⟨table, ht, fun k => (hcount k).trans (expected_eq hl ht k)⟩, hmisc⟩
  · intro hcond
    obtain ⟨⟨table, ht, hcount⟩, hmisc⟩ := hcond
    obtain ⟨layout, hl⟩ := exists_layout ht
    exact ⟨layout, hl, ⟨table, ht, fun k => (hcount k).trans (expected_eq hl ht k).symm⟩, hmisc⟩

/-- the first wrong count: those before it are right -/
theorem mismatch?_eq_some_iff : mismatch? table layout c = some k ↔ c.count k ≠ expected table layout k ∧
    ∃ before after, ChannelKind.all = before ++ k :: after ∧ ∀ j ∈ before, c.count j = expected table layout j := by
  simp only [mismatch?, List.find?_eq_some_iff_append, bne_iff_ne, ne_eq, Bool.not_eq_true', bne_eq_false_iff_eq]
  constructor
  · intro hfound
    obtain ⟨hk, before, after, hall, hbefore⟩ := hfound
    exact ⟨fun heq => hk heq.symm, before, after, hall, fun j hj => (hbefore j hj).symm⟩
  · intro hcond
    obtain ⟨hk, before, after, hall, hbefore⟩ := hcond
    exact ⟨fun heq => hk heq.symm, before, after, hall, fun j hj => (hbefore j hj).symm⟩

end Channels

/-! ## The checks -/

namespace Descriptor

variable {name : String} {v : Nat} {c table : Channels} {layout : ScoreLayout} {k : ChannelKind} {e : DescriptorError}
  {d : Descriptor}

/-- the error that a description is refused with: no table row for its version, or else the first of its counts that
differs from the row, or else a misc row without room for the score -/
inductive Refused (name : String) (v : Nat) (c : Channels) : DescriptorError → Prop
  | unsupported (h : ¬(3 ≤ v ∧ v ≤ 10)) : Refused name v c (.unsupportedVersion name v)
  | mismatch {table : Channels} {before after : List ChannelKind} {k : ChannelKind}
      (row : Channels.ofVersion v = some table)
      (order : [.spatial, .global, .value, .ownership, .score] = before ++ k :: after)
      (right : ∀ j ∈ before, c.count j = table.count j) (wrong : c.count k ≠ table.count k) :
      Refused name v c (.channelMismatch name v k (table.count k) (c.count k))
  | tooNarrow {table : Channels} (row : Channels.ofVersion v = some table) (right : ∀ k, c.count k = table.count k)
      (narrow : c.misc < c.score) : Refused name v c (.miscTooNarrow name c.misc c.score)

theorem check_of_unsupported (ht : Channels.ofVersion v = none) : check name v c = .error (.unsupportedVersion name v) := by
  unfold check
  split
  · rename_i hrow
    rw [ht] at hrow
    cases hrow
  · rfl

theorem check_of_mismatch (hl : ScoreLayout.ofVersion v = some layout) (ht : Channels.ofVersion v = some table)
    (hk : Channels.mismatch? table layout c = some k) :
    check name v c = .error (.channelMismatch name v k (table.count k) (c.count k)) := by
  rw [← Channels.expected_eq hl ht k]
  unfold check
  split
  · rename_i layout' table' hl' ht'
    cases hl.symm.trans hl'
    cases ht.symm.trans ht'
    split
    · rename_i j hj
      cases hk.symm.trans hj
      rfl
    · rename_i hnone
      rw [hk] at hnone
      cases hnone
  · rename_i hnone
    exact absurd ht (hnone layout table hl)

theorem check_of_right (hl : ScoreLayout.ofVersion v = some layout) (ht : Channels.ofVersion v = some table)
    (hk : Channels.mismatch? table layout c = none) :
    (c.misc < c.score → check name v c = .error (.miscTooNarrow name c.misc c.score)) ∧
      (c.score ≤ c.misc → ∃ d, check name v c = .ok d) := by
  unfold check
  split
  · rename_i layout' table' hl' ht'
    cases hl.symm.trans hl'
    cases ht.symm.trans ht'
    split
    · rename_i j hj
      rw [hk] at hj
      cases hj
    · split
      · rename_i hm
        exact ⟨fun _ => rfl, fun hle => absurd hm (Nat.not_lt.2 hle)⟩
      · rename_i hm
        exact ⟨fun hlt => absurd hlt hm, fun _ => ⟨_, rfl⟩⟩
  · rename_i hnone
    exact absurd ht (hnone layout table hl)

/-- a descriptor that the checks give has the name, the version and the counts that were declared -/
theorem check_fields (hd : check name v c = .ok d) : d.name = name ∧ d.version = v ∧ d.channels = c := by
  unfold check at hd
  split at hd
  · split at hd
    · cases hd
    · split at hd
      · cases hd
      · cases hd
        exact ⟨rfl, rfl, rfl⟩
  · cases hd

theorem Refused.check_eq (hr : Refused name v c e) : check name v c = .error e := by
  cases hr with
  | unsupported h =>
    have hrow : ¬∃ table, Channels.ofVersion v = some table := mt Channels.ofVersion_eq_some_iff.1 h
    exact check_of_unsupported (Option.not_isSome_iff_eq_none.1 (mt Option.isSome_iff_exists.1 hrow))
  | mismatch row order right wrong =>
    obtain ⟨layout, hl⟩ := Channels.exists_layout row
    have hexpected := Channels.expected_eq hl row
    refine check_of_mismatch hl row (Channels.mismatch?_eq_some_iff.2 ⟨?_, _, _, order, fun j hj => ?_⟩)
    · rwa [hexpected]
    · rw [hexpected]
      exact right j hj
  | tooNarrow row right narrow =>
    obtain ⟨layout, hl⟩ := Channels.exists_layout row
    have hnone : Channels.mismatch? _ layout c = none :=
      Channels.mismatch?_eq_none.2 fun k => (right k).trans (Channels.expected_eq hl row k).symm
    exact (check_of_right hl row hnone).1 narrow

/-- a description is taken with counts that fit, or refused with the first thing that is wrong -/
theorem check_cases (name : String) (v : Nat) (c : Channels) :
    ((∃ layout, c.Fits v layout) ∧ ∃ d, check name v c = .ok d) ∨ ∃ e, Refused name v c e ∧ check name v c = .error e := by
  have hrefused : ∀ {e}, Refused name v c e → ∃ e, Refused name v c e ∧ check name v c = .error e :=
    fun hr => ⟨_, hr, hr.check_eq⟩
  cases ht : Channels.ofVersion v with
  | none =>
    have hout : ¬(3 ≤ v ∧ v ≤ 10) := by
      intro hin
      obtain ⟨table, hrow⟩ := Channels.ofVersion_eq_some_iff.2 hin
      rw [ht] at hrow
      cases hrow
    exact Or.inr (hrefused (.unsupported hout))
  | some table =>
    obtain ⟨layout, hl⟩ := Channels.exists_layout ht
    have hexpected := Channels.expected_eq hl ht
    cases hk : Channels.mismatch? table layout c with
    | some k =>
      obtain ⟨hwrong, before, after, hall, hbefore⟩ := Channels.mismatch?_eq_some_iff.1 hk
      rw [hexpected] at hwrong
      exact Or.inr (hrefused (.mismatch ht hall (fun j hj => (hbefore j hj).trans (hexpected j)) hwrong))
    | none =>
      have hright : ∀ k, c.count k = table.count k := fun k => (Channels.mismatch?_eq_none.1 hk k).trans (hexpected k)
      rcases Nat.lt_or_ge c.misc c.score with hnarrow | hmisc
      · exact Or.inr (hrefused (.tooNarrow ht hright hnarrow))
      · exact Or.inl ⟨Channels.fits_iff.2 ⟨⟨table, ht, hright⟩, hmisc⟩, (check_of_right hl ht hk).2 hmisc⟩

/-- counts that fit are not refused -/
theorem Refused.not_fits (hr : Refused name v c e) : ¬∃ layout, c.Fits v layout := by
  intro hfits
  obtain ⟨⟨table, ht, hcount⟩, hmisc⟩ := Channels.fits_iff.1 hfits
  cases hr with
  | unsupported h => exact h (Channels.ofVersion_eq_some_iff.1 ⟨table, ht⟩)
  | mismatch row order right wrong =>
    cases ht.symm.trans row
    exact wrong (hcount _)
  | tooNarrow row right narrow => exact absurd narrow (Nat.not_lt.2 hmisc)

theorem check_ok_iff : (∃ d, check name v c = .ok d) ↔ ∃ layout, c.Fits v layout := by
  rcases check_cases name v c with ⟨hfits, hok⟩ | ⟨e, hr, herror⟩
  · exact ⟨fun _ => hfits, fun _ => hok⟩
  · constructor
    · intro hok
      obtain ⟨d, hd⟩ := hok
      rw [herror] at hd
      cases hd
    · intro hfits
      exact absurd hfits hr.not_fits

theorem check_eq_error_iff : check name v c = .error e ↔ Refused name v c e := by
  constructor
  · intro herror
    rcases check_cases name v c with ⟨-, d, hd⟩ | ⟨e', hr, herror'⟩
    · rw [herror] at hd
      cases hd
    · cases herror.symm.trans herror'
      exact hr
  · exact Refused.check_eq

/-- descriptors of one version and one list of counts have one layout -/
theorem ext_fields {b : Descriptor} (hname : d.name = b.name) (hversion : d.version = b.version)
    (hchannels : d.channels = b.channels) : d = b := by
  have hlayout : some d.layout = some b.layout := by
    rw [← d.fits.layout_eq, ← b.fits.layout_eq, hversion]
  cases d
  cases b
  cases hname
  cases hversion
  cases hchannels
  cases hlayout
  rfl

/-- every descriptor is the one that its own name, version and counts are checked to -/
theorem check_eq_ok_iff : check name v c = .ok d ↔ d.name = name ∧ d.version = v ∧ d.channels = c := by
  constructor
  · exact check_fields
  · intro hfields
    obtain ⟨hname, hversion, hchannels⟩ := hfields
    subst hname hversion hchannels
    obtain ⟨b, hb⟩ := check_ok_iff.2 ⟨d.layout, d.fits⟩
    obtain ⟨hname, hversion, hchannels⟩ := check_fields hb
    rw [hb, ext_fields hname hversion hchannels]

theorem declare_value (name : String) (v : Nat) (c : Channels) : (declare name v c).value = check name v c := by
  unfold declare
  split
  · rename_i e he
    exact he.symm
  · rename_i d hd
    exact hd.symm

/-! ## Descriptors of a version -/

/-- a row of the table makes a descriptor, whatever it is called -/
theorem exists_of_row (name : String) (ht : Channels.ofVersion v = some table) :
    ∃ d, (Descriptor.ofVersion name v).value = .ok d := by
  obtain ⟨d, hd, -⟩ := ofVersion_ok ht
  exact ⟨d, hd⟩

/-- a version is all that a descriptor with the counts of the table needs -/
theorem ofVersion_ok_iff : (∃ d, (Descriptor.ofVersion name v).value = .ok d) ↔ 3 ≤ v ∧ v ≤ 10 := by
  rw [← Channels.ofVersion_eq_some_iff]
  cases ht : Channels.ofVersion v with
  | none =>
    rw [ofVersion_error ht]
    exact ⟨nofun, nofun⟩
  | some table =>
    obtain ⟨d, hd⟩ := exists_of_row name ht
    exact ⟨fun _ => ⟨table, rfl⟩, fun _ => ⟨d, hd⟩⟩

theorem ofVersion_eq_error_iff :
    (Descriptor.ofVersion name v).value = .error e ↔ ¬(3 ≤ v ∧ v ≤ 10) ∧ .unsupportedVersion name v = e := by
  rw [← Channels.ofVersion_eq_some_iff]
  cases ht : Channels.ofVersion v with
  | none =>
    rw [ofVersion_error ht, Except.error.injEq]
    exact ⟨fun he => ⟨nofun, he⟩, fun hcond => hcond.2⟩
  | some table =>
    obtain ⟨d, hd⟩ := exists_of_row name ht
    rw [hd]
    exact ⟨nofun, fun hcond => absurd ⟨table, rfl⟩ hcond.1⟩

end Descriptor

/-- **The checks of a description are exact.** Whatever is declared, a descriptor is made exactly if the version is one of
3 to 10, the five counts that it fixes are those of its row in the version table, and the misc channels have room for the
score channels; it has what was declared. Every other declaration is refused with the first thing that is wrong. The
table and the score layouts never differ, so every version from 3 to 10 has a descriptor with the counts of the table and
every other number is refused as a version; and the facts that decoding relies on hold of every descriptor. -/
theorem declare_exact :
    (∀ (name : String) (v : Nat) (c : Channels),
      ((∃ d, (Descriptor.declare name v c).value = .ok d) ↔ (3 ≤ v ∧ v ≤ 10) ∧
        (∃ table, Channels.ofVersion v = some table ∧ ∀ k, c.count k = table.count k) ∧ c.score ≤ c.misc) ∧
      (∀ d, (Descriptor.declare name v c).value = .ok d ↔ d.name = name ∧ d.version = v ∧ d.channels = c) ∧
      ∀ e, (Descriptor.declare name v c).value = .error e ↔ Descriptor.Refused name v c e) ∧
    (∀ v, (Channels.ofVersion v).map Channels.score = (ScoreLayout.ofVersion v).map ScoreLayout.channels) ∧
    (∀ (name : String) (v : Nat),
      ((∃ d, (Descriptor.ofVersion name v).value = .ok d) ↔ 3 ≤ v ∧ v ≤ 10) ∧
      ∀ e, (Descriptor.ofVersion name v).value = .error e ↔ ¬(3 ≤ v ∧ v ≤ 10) ∧ .unsupportedVersion name v = e) ∧
    ∀ d : Descriptor, d.layout.channels = d.channels.score ∧ d.channels.score ≤ d.channels.misc ∧
      d.channels.value = 3 ∧ d.channels.ownership = 1 := by
  refine ⟨?_, ScoreLayout.ofVersion_agrees, ?_, ?_⟩
  · intro name v c
    rw [Descriptor.declare_value]
    refine ⟨?_, fun d => Descriptor.check_eq_ok_iff, fun e => Descriptor.check_eq_error_iff⟩
    rw [Descriptor.check_ok_iff, Channels.fits_iff]
    refine ⟨fun hcond => ⟨?_, hcond⟩, fun hcond => hcond.2⟩
    obtain ⟨⟨table, ht, -⟩, -⟩ := hcond
    exact Channels.ofVersion_eq_some_iff.1 ⟨table, ht⟩
  · intro name v
    exact ⟨Descriptor.ofVersion_ok_iff, fun e => Descriptor.ofVersion_eq_error_iff⟩
  · intro d
    exact ⟨d.score_eq.symm, d.fits.score_le_misc, d.value_eq, d.ownership_eq⟩

/-- a declaration of version 5 whose global and score counts are both wrong is told of the global count; with the right
ones it is taken, also with more misc channels than the table has -/
theorem declare_exact_versionFive :
    (Descriptor.declare "m" 5 ⟨22, 16, 3, 1, 1, 0⟩).value = .error (.channelMismatch "m" 5 .global 14 16) ∧
      (Descriptor.declare "m" 5 ⟨22, 14, 3, 1, 2, 1⟩).value = .error (.miscTooNarrow "m" 1 2) ∧
      (∃ d, (Descriptor.declare "m" 5 ⟨22, 14, 3, 1, 2, 7⟩).value = .ok d ∧ d.channels.misc = 7) ∧
      (Descriptor.ofVersion "m" 11).value = .error (.unsupportedVersion "m" 11) := by
  obtain ⟨hdeclare, -, hversion, -⟩ := declare_exact
  obtain ⟨-, -, hwrong⟩ := hdeclare "m" 5 ⟨22, 16, 3, 1, 1, 0⟩
  obtain ⟨-, -, hnarrow⟩ := hdeclare "m" 5 ⟨22, 14, 3, 1, 2, 1⟩
  obtain ⟨hmade, hfields, -⟩ := hdeclare "m" 5 ⟨22, 14, 3, 1, 2, 7⟩
  obtain ⟨d, hd⟩ := hmade.2 ⟨⟨by decide, by decide⟩, ⟨_, rfl, fun k => by cases k <;> rfl⟩, by decide⟩
  have hrow : Channels.ofVersion 5 = some ⟨22, 14, 3, 1, 2, 6⟩ := rfl
  have horder : [.spatial, .global, .value, .ownership, .score] =
      [ChannelKind.spatial] ++ .global :: [.value, .ownership, .score] := rfl
  have hglobal : Descriptor.Refused "m" 5 ⟨22, 16, 3, 1, 1, 0⟩ (.channelMismatch "m" 5 .global 14 16) :=
    .mismatch hrow horder (by decide) (by decide)
  refine ⟨(hwrong _).2 hglobal, (hnarrow _).2 (.tooNarrow rfl (fun k => by cases k <;> rfl) (by decide)), ⟨d, hd, ?_⟩, ?_⟩
  · rw [((hfields d).1 hd).2.2]
  · exact ((hversion "m" 11).2 _).2 ⟨by decide, rfl⟩

end BatchEval
