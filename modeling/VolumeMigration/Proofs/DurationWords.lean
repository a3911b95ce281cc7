import VolumeMigration.Duration
import VolumeMigration.Proofs.Numerals
import VolumeMigration.Proofs.Results

/-!
# What durations can be written

Whatever a text says, the duration that is read from it has 64 bits of whole seconds
(`Duration.fits_ofText`): every term that is added is checked, and nothing is added in any other
way. Within that limit there is none that cannot be written (`Duration.ofText_words`). So these
are the durations that can be set in words, up to the last nanosecond.
-/

namespace VolumeMigration.Duration

/-- The whole seconds have 64 bits. -/
def Fits (d : Duration) : Prop := d.seconds < 1 <<< 64

instance : DecidablePred Fits := fun d ↦ inferInstanceAs (Decidable (d.seconds < 1 <<< 64))

namespace Reader

variable {total sum next : Duration} {phase later : Phase} {offset : Nat}

/-! ### Sums -/

/-- A number is taken as it is, if it stays below the limit. -/
theorem bounded_eq_ok_iff {n m : Nat} : bounded n = .ok m ↔ n < limit ∧ n = m := by
  unfold bounded
  split
  next hlt => simp [hlt]
  next hle => simp [hle]

theorem bounded_of_lt {n : Nat} (h : n < limit) : bounded n = .ok n :=
  bounded_eq_ok_iff.mpr ⟨h, rfl⟩

/-- A sum is there if the parts of a second and the whole seconds stay within their bits. -/
theorem add_eq_ok_iff {seconds nanos : Nat} :
    add total seconds nanos = .ok sum ↔
      sum.nanos = total.nanos + seconds * nanosPerSecond + nanos ∧
        total.subsecondNanos + nanos < limit ∧ sum.Fits := by
  have hvalue : (total.seconds + seconds) * nanosPerSecond + (total.subsecondNanos + nanos) =
      total.nanos + seconds * nanosPerSecond + nanos := by
    have hsplit : total.nanos / nanosPerSecond * nanosPerSecond + total.nanos % nanosPerSecond =
        total.nanos := Nat.div_add_mod' total.nanos nanosPerSecond
    simp only [Duration.seconds, subsecondNanos, Nat.add_mul]
    omega
  simp only [add, bind_eq_ok_iff, bounded_eq_ok_iff]
  constructor
  · rintro ⟨_, ⟨hnanos, rfl⟩, _, ⟨hseconds, -⟩, ⟨⟩⟩
    exact ⟨hvalue, hnanos, hseconds⟩
  · rintro ⟨hsum, hnanos, hfits⟩
    obtain rfl : sum = ⟨total.nanos + seconds * nanosPerSecond + nanos⟩ := congrArg mk hsum
    refine ⟨_, ⟨hnanos, rfl⟩, _, ⟨?_, rfl⟩, ?_⟩
    · rw [hvalue]
      exact hfits
    · rw [hvalue]
      rfl

theorem fits_addTimes {count : Nat} {u : TimeUnit} (h : addTimes total count u = .ok sum) :
    sum.Fits := by
  unfold addTimes at h
  split at h <;> obtain ⟨_, -, h⟩ := bind_eq_ok_iff.mp h <;> exact (add_eq_ok_iff.mp h).2.2

theorem fits_addFraction {f : Fraction} {u : TimeUnit} (h : addFraction total f u = .ok sum) :
    sum.Fits := by
  simp only [addFraction] at h
  by_cases hgrain : u.grain = 0
  · rw [if_pos hgrain] at h
    cases h
  · rw [if_neg hgrain] at h
    obtain ⟨scaled, -, h⟩ := bind_eq_ok_iff.mp h
    by_cases hinexact : scaled % f.denominator ≠ 0
    · rw [if_pos hinexact] at h
      cases h
    · rw [if_neg hinexact] at h
      split_ifs at h <;> exact (add_eq_ok_iff.mp h).2.2

/-- A term is added only if the sum fits. -/
theorem fits_addTerm {count : Nat} {fraction : Option Fraction} {name : String}
    (h : addTerm total count fraction name = .ok sum) : sum.Fits := by
  unfold addTerm at h
  split at h
  · cases h
  obtain ⟨whole, hwhole, h⟩ := bind_eq_ok_iff.mp h
  split at h
  · exact fits_addFraction h
  · cases h
    exact fits_addTimes hwhole

/-! ### From the first character to the last -/

/-- What a character, or the end of the text, makes of the total: nothing, or it adds a term. -/
inductive Advances (total : Duration) : Duration → Prop
  | same : Advances total total
  | term {count : Nat} {fraction : Option Fraction} {name : String} {sum : Duration}
      (hsum : addTerm total count fraction name = .ok sum) : Advances total sum

/-- A total that fits still does when it has grown by a step. -/
theorem Advances.fits (h : Advances total sum) (htotal : total.Fits) : sum.Fits := by
  cases h with
  | same => exact htotal
  | term hsum => exact fits_addTerm hsum

theorem advances_step {c : Char} (h : step total phase offset c = .ok (next, later)) :
    Advances total next := by
  cases phase with
  | before start first =>
    simp only [step] at h
    split_ifs at h
    all_goals
      cases h
      exact .same
  | number count =>
    simp only [step] at h
    split_ifs at h
    · obtain ⟨_, -, ⟨⟩⟩ := bind_eq_ok_iff.mp h
      exact .same
    all_goals
      cases h
      exact .same
  | fraction count f mark =>
    simp only [step] at h
    split_ifs at h
    · obtain ⟨_, -, ⟨⟩⟩ := bind_eq_ok_iff.mp h
      exact .same
    all_goals
      cases h
      exact .same
  | unit count fraction letters =>
    simp only [step] at h
    split_ifs at h
    · obtain ⟨_, hclose, ⟨⟩⟩ := bind_eq_ok_iff.mp h
      exact .term hclose
    · obtain ⟨_, hclose, ⟨⟩⟩ := bind_eq_ok_iff.mp h
      exact .term hclose
    all_goals
      cases h
      exact .same

/-- The end of a text adds one step at most. -/
theorem advances_finish (h : finish total phase = .ok sum) : Advances total sum := by
  cases phase with
  | before start first =>
    simp only [finish] at h
    split_ifs at h
    cases h
    exact .same
  | number count =>
    rw [finish] at h
    exact .term h
  | fraction count f mark =>
    simp only [finish] at h
    split_ifs at h
    exact .term h
  | unit count fraction letters =>
    rw [finish] at h
    exact .term h

/-- What is read of a whole text fits. -/
theorem fits_run {cs : List Char} (htotal : total.Fits) (h : run total phase offset cs = .ok sum) :
    sum.Fits := by
  induction cs generalizing total phase offset with
  | nil => exact (advances_finish h).fits htotal
  | cons c cs ih =>
    rw [run] at h
    obtain ⟨⟨next, later⟩, hstep, hrun⟩ := bind_eq_ok_iff.mp h
    exact ih ((advances_step hstep).fits htotal) hrun

end Reader

/-- No text means a duration that does not fit. -/
theorem fits_ofText {text : String} {d : Duration} (h : ofText text = .ok d) : d.Fits := by
  have hzero : Fits ⟨0⟩ := by decide
  unfold ofText at h
  split at h
  · cases h
    exact hzero
  · exact Reader.fits_run hzero h

/-! ### Durations in words -/

/-- A duration in words: its whole seconds, and the nanoseconds beyond them. -/
def words (d : Duration) : String :=
  toString d.seconds ++ "s" ++ toString d.subsecondNanos ++ "ns"

theorem toList_words (d : Duration) :
    d.words.toList = Nat.toDigits 10 d.seconds ++
      's' :: (Nat.toDigits 10 d.subsecondNanos ++ ['n', 's']) := by
  have hnumeral : ∀ n : Nat, (toString n).toList = Nat.toDigits 10 n := fun _ ↦ Nat.toList_repr
  simp only [words, String.toList_append, hnumeral, List.append_assoc]
  rfl

namespace Reader

variable {total next : Duration} {phase : Phase} {count n : Nat} {digits : List Char}

/-- The digits of a number that has 64 bits are read one after the other. -/
theorem exists_run_digits (hdigits : ∀ c ∈ digits, c.isDigit = true)
    (hfits : Nat.ofDigitChars 10 digits count < limit) (offset : Nat) (rest : List Char) :
    ∃ later, run total (.number count) offset (digits ++ rest) =
      run total (.number (Nat.ofDigitChars 10 digits count)) later rest := by
  induction digits generalizing count offset with
  | nil => exact ⟨offset, by rw [List.nil_append, Nat.ofDigitChars_nil]⟩
  | cons c digits ih =>
    obtain ⟨hc, hdigits⟩ := List.forall_mem_cons.mp hdigits
    rw [Nat.ofDigitChars_cons] at hfits ⊢
    have hbound : 10 * count + digit c < limit :=
      Nat.lt_of_le_of_lt (Numeral.le_ofDigitChars digits _) hfits
    have hstep : step total (.number count) offset c =
        .ok (total, .number (10 * count + digit c)) := by
      simp only [step, hc, if_true, Nat.mul_comm count 10, bounded_of_lt hbound]
      rfl
    obtain ⟨later, hrun⟩ := ih hdigits hfits (offset + c.utf8Size)
    refine ⟨later, ?_⟩
    rw [List.cons_append, run, hstep]
    exact hrun

/-- A number is read as itself wherever it begins, if its first digit opens a number there. -/
theorem exists_run_toDigits {offset : Nat}
    (hopens : ∀ c, c.isDigit = true → step total phase offset c = .ok (next, .number (digit c)))
    (hn : n < limit) (rest : List Char) :
    ∃ later, run total phase offset (Nat.toDigits 10 n ++ rest) =
      run next (.number n) later rest := by
  obtain ⟨d, digits, heq, hd⟩ := Numeral.exists_toDigits_eq_cons n
  have hvalue : Nat.ofDigitChars 10 digits (digit d) = n := by
    have hall : Nat.ofDigitChars 10 (Nat.toDigits 10 n) 0 = n := Nat.ofDigitChars_ten_toDigits
    rwa [heq, Nat.ofDigitChars_cons, Nat.mul_zero, Nat.zero_add] at hall
  have hdigits : ∀ c ∈ digits, c.isDigit = true := fun c hc ↦
    Numeral.isDigit_of_mem_toDigits (heq ▸ List.mem_cons_of_mem d hc)
  rw [heq, List.cons_append, run, hopens d hd]
  subst hvalue
  exact exists_run_digits hdigits hn (offset + d.utf8Size) rest

theorem addTerm_of_unit {name : String} {u : TimeUnit} (hunit : TimeUnit.ofName? name = some u) :
    addTerm total count none name = addTimes total count u := by
  simp only [addTerm, hunit, bind_pure]

/-- Seconds below the limit are taken as they are. -/
theorem addTerm_seconds (hn : n < limit) : addTerm ⟨0⟩ n none "s" = .ok (ofSeconds n) := by
  have hunit : TimeUnit.ofName? "s" = some (.fine nanosPerSecond) := by decide +kernel
  have hsum : add ⟨0⟩ n 0 = .ok (ofSeconds n) := by
    refine add_eq_ok_iff.mpr ⟨?_, by decide, ?_⟩
    · simp [ofSeconds]
    · rw [Fits, seconds_ofSeconds]
      exact hn
  have htimes : addTimes ⟨0⟩ n (.fine nanosPerSecond) = add ⟨0⟩ n 0 := by
    have hwhole : (TimeUnit.fine nanosPerSecond).nanos / nanosPerSecond = 1 := by decide
    rw [addTimes, if_pos (by decide), hwhole, Nat.mul_one, bounded_of_lt hn]
    exact pure_bind n _
  rw [addTerm_of_unit hunit, htimes, hsum]

theorem addTerm_nanos (htotal : total.Fits) (hwhole : total.subsecondNanos = 0)
    (hn : n < nanosPerSecond) : addTerm total n none "ns" = .ok ⟨total.nanos + n⟩ := by
  have hunit : TimeUnit.ofName? "ns" = some ⟨1, 0⟩ := by decide +kernel
  have hbound : n < limit := Nat.lt_trans hn (by decide)
  have hsum : add total 0 n = .ok ⟨total.nanos + n⟩ := by
    refine add_eq_ok_iff.mpr ⟨by simp, by rwa [hwhole, Nat.zero_add], ?_⟩
    -- less than a second is added to whole seconds
    have hsame : Duration.seconds ⟨total.nanos + n⟩ = total.seconds := by
      simp only [Duration.seconds, subsecondNanos] at hwhole ⊢
      simp only [nanosPerSecond] at hn hwhole ⊢
      omega
    rw [Fits, hsame]
    exact htotal
  have htimes : addTimes total n ⟨1, 0⟩ = add total 0 n := by
    rw [addTimes, if_neg (by decide), Nat.mul_one, bounded_of_lt hbound]
    exact pure_bind n _
  rw [addTerm_of_unit hunit, htimes, hsum]

/-- A text can begin with a digit. -/
theorem step_first {c : Char} (hc : c.isDigit = true) :
    step ⟨0⟩ (.before 0 true) 0 c = .ok (⟨0⟩, .number (digit c)) := by
  simp only [step, hc, if_true]
  rfl

/-- A digit ends the unit before it. -/
theorem step_afterSeconds (hn : n < limit) {c : Char} (hc : c.isDigit = true) (offset : Nat) :
    step ⟨0⟩ (.unit n none ['s']) offset c = .ok (ofSeconds n, .number (digit c)) := by
  have hname : String.ofList ['s'].reverse = "s" := rfl
  simp only [step, hc, if_true, hname, addTerm_seconds hn]
  rfl

end Reader

theorem words_ne_zero (d : Duration) : d.words ≠ "0" := by
  intro hzero
  have hmem : 's' ∈ d.words.toList := by
    rw [toList_words]
    exact List.mem_append_right _ List.mem_cons_self
  rw [hzero] at hmem
  exact absurd hmem (by decide)

/-- A duration that fits is read back from its words. -/
theorem ofText_words {d : Duration} (h : d.Fits) : ofText d.words = .ok d := by
  have hnanos : d.subsecondNanos < nanosPerSecond := Nat.mod_lt d.nanos (by decide)
  have hwhole : (ofSeconds d.seconds).subsecondNanos = 0 :=
    Nat.mul_mod_left d.seconds nanosPerSecond
  have hsplit : d = ⟨(ofSeconds d.seconds).nanos + d.subsecondNanos⟩ :=
    congrArg mk (Nat.div_add_mod' d.nanos nanosPerSecond).symm
  rw [ofText, if_neg d.words_ne_zero, toList_words]
  -- the seconds, their unit, and then the nanoseconds
  obtain ⟨behind, hseconds⟩ := Reader.exists_run_toDigits (fun _ ↦ Reader.step_first) h
    ('s' :: (Nat.toDigits 10 d.subsecondNanos ++ ['n', 's']))
  obtain ⟨last, hrest⟩ := Reader.exists_run_toDigits
    (fun _ hc ↦ Reader.step_afterSeconds h hc (behind + 's'.utf8Size))
    (Nat.lt_trans hnanos (by decide)) ['n', 's']
  calc Reader.run ⟨0⟩ (.before 0 true) 0 _
    _ = Reader.run ⟨0⟩ (.unit d.seconds none ['s']) (behind + 's'.utf8Size)
        (Nat.toDigits 10 d.subsecondNanos ++ ['n', 's']) := hseconds
    _ = Reader.run (ofSeconds d.seconds) (.number d.subsecondNanos) last ['n', 's'] := hrest
    _ = Reader.addTerm (ofSeconds d.seconds) d.subsecondNanos none "ns" := rfl
    _ = .ok d := by
      have hfits : (ofSeconds d.seconds).Fits := by rwa [Fits, seconds_ofSeconds]
      rw [Reader.addTerm_nanos hfits hwhole hnanos, ← hsplit]

/-- The durations that can be written are those that fit. -/
theorem exists_ofText_iff {d : Duration} : (∃ text, ofText text = .ok d) ↔ d.Fits := by
  constructor
  · rintro ⟨text, h⟩
    exact fits_ofText h
  · intro h
    exact ⟨d.words, ofText_words h⟩

end VolumeMigration.Duration
