import VolumeMigration.Proofs.Yaml.Quoted

/-!
# Literal blocks are read as they were written

The lines of a literal block stand as they are, behind an indentation that is either written in
the header or that of the first line, and the header says which of the breaks at the end belong
to the text.
-/

namespace VolumeMigration.Yaml

variable {ch : Char} {cs rest : List Char} {indent l k : Nat}

/-! ### Lines with their breaks -/

/-- A text of complete lines, each with the break at its end. -/
inductive Lines : List Char → Prop
  | nil : Lines []
  | cons (line : List Char) (b : Char) (cs : List Char) (hline : ∀ c ∈ line, isBreak c = false)
      (hb : isBreak b) (hcs : Lines cs) : Lines (line ++ b :: cs)

theorem lines_of_getLast? (h : ∀ c ∈ cs.getLast?, isBreak c) : Lines cs := by
  induction cs with
  | nil => exact .nil
  | cons c cs ih =>
    have htail : Lines cs := by
      refine ih fun d hd ↦ h d ?_
      rw [List.getLast?_cons, Option.mem_def.1 hd]
      rfl
    cases hc : isBreak c with
    | true => exact .cons [] c cs (fun _ h ↦ absurd h List.not_mem_nil) hc htail
    | false =>
      cases htail with
      | nil =>
        have hbreak := h c rfl
        rw [hc] at hbreak
        cases hbreak
      | cons line b cs hline hb hcs =>
        exact .cons (c :: line) b cs (List.forall_mem_cons.2 ⟨hc, hline⟩) hb hcs

theorem literalBody_break (lineStart : Bool) (hch : isBreak ch) :
    literalBody indent lineStart (ch :: cs) = ch :: literalBody indent true cs := by
  rw [literalBody, if_pos hch]

theorem literalBody_false (line : List Char) (hline : ∀ c ∈ line, isBreak c = false) :
    literalBody indent false (line ++ cs) = line ++ literalBody indent false cs := by
  induction line with
  | nil => rfl
  | cons c line ih =>
    rw [List.cons_append, literalBody, if_neg (by simp [hline c List.mem_cons_self]),
      ih fun d hd ↦ hline d (List.mem_cons_of_mem _ hd)]
    rfl

/-- A line of a literal block starts at the indentation, unless it is empty. -/
theorem exists_literalBody_line (indent : Nat) (cs : List Char) {line : List Char}
    (hline : ∀ c ∈ line, isBreak c = false)
    (hch : isBreak ch) :
    ∃ n, (n = indent ∨ n = 0 ∧ line = []) ∧ literalBody indent true (line ++ ch :: cs) =
      spaces n ++ (line ++ ch :: literalBody indent true cs) := by
  cases line with
  | nil => exact ⟨0, .inr ⟨rfl, rfl⟩, literalBody_break true hch⟩
  | cons c line =>
    have htail : literalBody indent false (line ++ ch :: cs) =
        line ++ literalBody indent false (ch :: cs) :=
      literalBody_false line fun d hd ↦ hline d (List.mem_cons_of_mem _ hd)
    rw [literalBody_break false hch] at htail
    refine ⟨indent, .inl rfl, ?_⟩
    rw [List.cons_append, literalBody, if_neg (by simp [hline c List.mem_cons_self]), htail]
    rfl

theorem literalBody_append_break (lineStart : Bool) (hch : isBreak ch) :
    literalBody indent lineStart (cs ++ [ch]) = literalBody indent lineStart cs ++ [ch] := by
  induction cs generalizing lineStart with
  | nil => exact literalBody_break lineStart hch
  | cons c cs ih =>
    rw [List.cons_append, literalBody, literalBody, ih, ih]
    split
    · rfl
    · rw [List.append_assoc]
      rfl

namespace Reader

/-- Where a line of a block starts: behind as many spaces as the indentation takes. -/
theorem skip_indentation {n : Nat} (hn : n ≤ indent) (hcs : n = indent ∨ cs.head? ≠ some ' ') :
    (⟨spaces n ++ cs, l, 0⟩ : Cursor).skip
      (((spaces n ++ cs).take indent).takeWhile (· == ' ')).length = ⟨cs, l, n⟩ := by
  have htake : (spaces n ++ cs).take indent = spaces n ++ cs.take (indent - n) := by
    rw [List.take_append, length_spaces, List.take_of_length_le (by rw [length_spaces]; exact hn)]
  have htaken : ((spaces n ++ cs).take indent).takeWhile (· == ' ') = spaces n := by
    rw [htake]
    refine Cursor.takeWhile_append_of_head (fun d hd ↦ by rw [mem_spaces hd]; rfl) fun d hd ↦ ?_
    obtain rfl | hcs := hcs
    · rw [Nat.sub_self] at hd
      cases hd
    · have hhead : d ∈ cs.head? := by
        rw [List.head?_take] at hd
        split at hd
        · cases hd
        · exact hd
      rw [beq_eq_false_iff_ne]
      rintro rfl
      exact hcs hhead
  rw [htaken, Cursor.skip_spaces, Nat.zero_add]

/-- A block ends where a line starts left of its indentation. -/
theorem literalLines_of_leftOf {fuel : Nat} (hrest : LeftOf indent rest) :
    literalLines indent ⟨rest, l, 0⟩ fuel = ([], ⟨rest, l, 0⟩) := by
  cases fuel with
  | zero => rfl
  | succ fuel =>
    cases hrest with
    | ends =>
      rw [literalLines]
      exact if_pos (by simp [Cursor.skip])
    | goes n ch behind hch hlt =>
      have hstart : (⟨spaces n ++ ch :: behind, l, 0⟩ : Cursor).skip
          (((spaces n ++ ch :: behind).take indent).takeWhile (· == ' ')).length =
            ⟨ch :: behind, l, n⟩ :=
        skip_indentation (Nat.le_of_lt hlt) (.inr fun h ↦ by cases Option.some.inj h; cases hch)
      have hspan : ((⟨ch :: behind, l, n⟩ : Cursor).span (!isBreak ·)).1.isEmpty = false := by
        simp [Cursor.span, isBreak_of_startsToken hch]
      rw [literalLines]
      simp only [hstart]
      exact if_pos (by simp only [hspan, hlt]; rfl)

/-- One line of a block, with its break. -/
theorem literalLines_line {line lines : List Char} {fuel n : Nat} {last : Cursor}
    (hline : ∀ c ∈ line, isBreak c = false) (hch : isBreak ch) (hn : n = indent ∨ n = 0 ∧ line = [])
    (hread : literalLines indent ⟨rest, l + 1, 0⟩ fuel = (lines, last)) :
    literalLines indent ⟨spaces n ++ (line ++ ch :: rest), l, 0⟩ (fuel + 1) =
      (line ++ ch :: lines, last) := by
  have hspace : ch ≠ ' ' := by
    rintro rfl
    cases hch
  have hstart : (⟨spaces n ++ (line ++ ch :: rest), l, 0⟩ : Cursor).skip
      (((spaces n ++ (line ++ ch :: rest)).take indent).takeWhile (· == ' ')).length =
        ⟨line ++ ch :: rest, l, n⟩ := by
    obtain rfl | ⟨rfl, rfl⟩ := hn
    · exact skip_indentation (Nat.le_refl n) (.inl rfl)
    · exact skip_indentation (Nat.zero_le indent) (.inr fun h ↦ hspace (Option.some.inj h))
  have hspan : (⟨line ++ ch :: rest, l, n⟩ : Cursor).span (!isBreak ·) =
      (line, ⟨ch :: rest, l, n + line.length⟩) :=
    Cursor.span_append (fun d hd ↦ by simp [hline d hd]) hline fun d hd ↦ by
      obtain rfl : ch = d := Option.some.inj hd
      simp [hch]
  have hgoes :
      ((line ++ ch :: rest).isEmpty || (decide (n < indent) && !line.isEmpty)) = false := by
    obtain rfl | ⟨rfl, rfl⟩ := hn <;> simp
  rw [literalLines]
  simp only [hstart, hspan, hgoes, Cursor.next_break hch, hread]
  simp

/-- The lines of a block are read up to where a line starts left of them. -/
theorem literalLines_literalBody {fuel : Nat} (hcs : Lines cs) (hfuel : cs.length < fuel)
    (hrest : LeftOf indent rest) :
    ∃ l', literalLines indent ⟨literalBody indent true cs ++ rest, l, 0⟩ fuel =
      (cs, ⟨rest, l', 0⟩) := by
  induction hcs generalizing l fuel with
  | nil => exact ⟨l, literalLines_of_leftOf hrest⟩
  | cons line b cs hline hb hcs ih =>
    obtain ⟨fuel, rfl⟩ := Nat.exists_eq_add_one.2 (Nat.zero_lt_of_lt hfuel)
    rw [List.length_append, List.length_cons] at hfuel
    obtain ⟨l', hread⟩ := @ih (l + 1) fuel (by omega)
    obtain ⟨n, hn, hbody⟩ := exists_literalBody_line indent cs hline hb
    refine ⟨l', ?_⟩
    rw [hbody, List.append_assoc, List.append_assoc]
    exact literalLines_line hline hb hn hread

end Reader

/-! ### The header -/

theorem length_le_literalBody (indent : Nat) (lineStart : Bool) (cs : List Char) :
    cs.length ≤ (literalBody indent lineStart cs).length := by
  induction cs generalizing lineStart with
  | nil => exact Nat.zero_le _
  | cons c cs ih =>
    rw [literalBody]
    split
    · exact Nat.succ_le_succ (ih true)
    · have := ih false
      rw [List.length_append, List.length_cons, List.length_cons]
      omega

/-- How a text ends: where its line is not complete, by several breaks or by nothing but one,
or by one break behind a line. -/
inductive Ending : List Char → List Char → Prop
  | open (initial : List Char) (c : Char) (hc : isBreak c = false) : Ending (initial ++ [c]) ['-']
  | breaks (initial : List Char) (c : Char) (hc : isBreak c) : Ending (initial ++ [c]) ['+']
  | line (initial : List Char) (d c : Char) (hd : isBreak d = false) (hc : isBreak c) :
      Ending (initial ++ [d, c]) []

/-- Whether the text of a literal block starts by a blank, and hides the indentation. -/
def startsBlank (cs : List Char) : Bool := (cs.head?.map fun c ↦ c == ' ' || isBreak c).getD false

/-- The header tells the indentation where the text hides it, and how the text ends. -/
theorem exists_literalHints (hcs : cs ≠ []) :
    ∃ chomping, Ending cs chomping ∧
      literalHints cs = (if startsBlank cs then ['2'] else []) ++ chomping := by
  have hreverse : cs = cs.reverse.reverse := (List.reverse_reverse cs).symm
  unfold literalHints
  cases h : cs.reverse with
  | nil => exact absurd (List.reverse_eq_nil_iff.1 h) hcs
  | cons c before =>
    rw [h, List.reverse_cons] at hreverse
    cases before with
    | nil =>
      cases hc : isBreak c with
      | true => exact ⟨['+'], hreverse ▸ .breaks [] c hc, congrArg (_ ++ ·) (if_pos hc)⟩
      | false => exact ⟨['-'], hreverse ▸ .open [] c hc, congrArg (_ ++ ·) (if_neg (by simp [hc]))⟩
    | cons d before =>
      cases hc : isBreak c with
      | false => exact ⟨['-'], hreverse ▸ .open _ c hc, congrArg (_ ++ ·) (if_pos (by simp [hc]))⟩
      | true =>
        have hends : (if !isBreak c then ['-'] else if isBreak d then ['+'] else []) =
            if isBreak d then ['+'] else [] := if_neg (by simp [hc])
        cases hd : isBreak d with
        | true =>
          exact ⟨['+'], hreverse ▸ .breaks _ c hc, congrArg (_ ++ ·) (hends.trans (if_pos hd))⟩
        | false =>
          rw [List.reverse_cons, List.append_assoc] at hreverse
          exact ⟨[], hreverse ▸ .line _ d c hd hc,
            congrArg (_ ++ ·) (hends.trans (if_neg (by simp [hd])))⟩

theorem Ending.mem {chomping : List Char} {c : Char} (h : Ending cs chomping) (hc : c ∈ chomping) :
    c = '-' ∨ c = '+' := by
  cases h with
  | «open» => exact .inl (List.eq_of_mem_singleton hc)
  | breaks => exact .inr (List.eq_of_mem_singleton hc)
  | line => cases hc

theorem mem_literalHints {c : Char} (hcs : cs ≠ []) (hc : c ∈ literalHints cs) :
    c = '2' ∨ c = '-' ∨ c = '+' := by
  obtain ⟨chomping, hending, hhints⟩ := exists_literalHints hcs
  rw [hhints] at hc
  obtain hc | hc := List.mem_append.1 hc
  · split at hc
    · exact .inl (List.eq_of_mem_singleton hc)
    · cases hc
  · exact .inr (hending.mem hc)

/-- The text with the break that ends its last line. -/
def closed (cs : List Char) : List Char :=
  if (cs.getLast?.map isBreak).getD true then cs else cs ++ ['\n']

theorem lines_closed (cs : List Char) : Lines (closed cs) := by
  rw [closed]
  split
  · rename_i h
    refine lines_of_getLast? fun c hc ↦ ?_
    rwa [Option.mem_def.1 hc] at h
  · refine lines_of_getLast? fun c hc ↦ ?_
    rw [List.getLast?_concat, Option.mem_some_iff] at hc
    rw [← hc]
    rfl

/-- What is written of a literal block ends its last line. -/
theorem literalBody_closed (cs : List Char) :
    literalBody indent true (closed cs) = literalBody indent true cs ++
      if (cs.getLast?.map isBreak).getD true then [] else ['\n'] := by
  rw [closed]
  split
  · exact (List.append_nil _).symm
  · exact literalBody_append_break true rfl

namespace Reader

/-- What the end of a header makes of the lines of a block. -/
def chomped (header lines : List Char) : List Char :=
  let kept := (lines.reverse.dropWhile isBreak).reverse
  if header.contains '+' then lines
  else if header.contains '-' || kept.isEmpty then kept
  else lines.take (kept.length + 1)

/-- The indentation that a header tells or, where it tells none, the first line shows. -/
def blockIndent (parent : Nat) (header : List Char) (body : Cursor) : Nat :=
  match header.find? Char.isDigit with
  | some d => parent + (d.toNat - '0'.toNat)
  | none => max (firstIndent body) 1

/-- A literal block is read by its header, its lines and its end. -/
theorem literal_eq {parent : Nat} {c lineEnd behind : Cursor} {header lines : List Char}
    (hheader : c.next.span (!isBreak ·) = (header, lineEnd))
    (hlines : literalLines (blockIndent parent header lineEnd.next) lineEnd.next
      (lineEnd.next.rest.length + 1) = (lines, behind)) :
    literal parent c = (chomped header lines, behind) := by
  rw [literal]
  simp only [hheader]
  change (chomped header (literalLines (blockIndent parent header lineEnd.next) lineEnd.next
    (lineEnd.next.rest.length + 1)).1, (literalLines (blockIndent parent header lineEnd.next)
      lineEnd.next (lineEnd.next.rest.length + 1)).2) = _
  rw [hlines]

/-- The header gives the text back from its lines. -/
theorem chomped_closed {chomping header : List Char} (h : Ending cs chomping)
    (hheader : header = chomping ∨ header = '2' :: chomping) : chomped header (closed cs) = cs := by
  have hcontains (c : Char) (hc : c ≠ '2') : header.contains c = chomping.contains c := by
    obtain rfl | rfl := hheader
    · rfl
    · simp [hc]
  rw [chomped, hcontains '+' (by decide), hcontains '-' (by decide)]
  cases h with
  | «open» initial c hc =>
    have hfeed : isBreak '\n' = true := rfl
    simp [closed, hc, hfeed]
  | breaks initial c hc => simp [closed, hc]
  | line initial d c hd hc =>
    have hall : (initial ++ [d, c]).take (initial.length + 1 + 1) = initial ++ [d, c] :=
      List.take_of_length_le (by simp)
    simp [closed, hd, hc, hall]

/-- The first line of a block shows the indentation where its text starts by no blank. -/
theorem firstIndent_literalBody {t : List Char} (hcs : cs ≠ []) (hstart : startsBlank cs = false) :
    firstIndent ⟨literalBody indent true cs ++ t, l, k⟩ = indent := by
  cases cs with
  | nil => exact absurd rfl hcs
  | cons c cs =>
    have hblank : (c == ' ' || isBreak c) = false := hstart
    have hbreak := (Bool.or_eq_false_iff.1 hblank).2
    have htaken : (literalBody indent true (c :: cs) ++ t).takeWhile
        (fun ch ↦ ch == ' ' || isBreak ch) = spaces indent := by
      rw [literalBody, if_neg (by simp [hbreak]), if_pos rfl, List.append_assoc]
      exact Cursor.takeWhile_append_of_head (fun d hd ↦ by rw [mem_spaces hd]; rfl) fun d hd ↦ by
        obtain rfl : c = d := Option.some.inj hd
        exact hblank
    have hspaces : (spaces indent).reverse.takeWhile (· == ' ') = spaces indent := by
      rw [spaces, List.reverse_replicate]
      exact List.takeWhile_eq_self_iff.2 fun d hd ↦ by rw [List.eq_of_mem_replicate hd]; rfl
    simp only [firstIndent, htaken, hspaces, length_spaces]

/-- A literal block is read as the text that it was written from. -/
theorem literal_literalBody {parent : Nat} (hcs : cs ≠ []) (hrest : LeftOf (parent + 2) rest) :
    ∃ l', literal parent ⟨'|' :: (literalHints cs ++ '\n' ::
      (literalBody (parent + 2) true (closed cs) ++ rest)), l, k⟩ = (cs, ⟨rest, l', 0⟩) := by
  obtain ⟨chomping, hending, hhints⟩ := exists_literalHints hcs
  have hline : ∀ c ∈ literalHints cs, isBreak c = false := by
    intro c hc
    obtain rfl | rfl | rfl := mem_literalHints hcs hc <;> rfl
  have hfuel : (closed cs).length <
      (literalBody (parent + 2) true (closed cs) ++ rest).length + 1 := by
    have := length_le_literalBody (parent + 2) true (closed cs)
    rw [List.length_append]
    omega
  -- the lines behind the header are those of the text, the last one ended
  obtain ⟨l', hread⟩ := literalLines_literalBody (l := l + 1) (lines_closed cs) hfuel hrest
  have hspan : (⟨literalHints cs ++ '\n' :: (literalBody (parent + 2) true (closed cs) ++ rest), l,
      k + 1⟩ : Cursor).span (!isBreak ·) = (literalHints cs,
        ⟨'\n' :: (literalBody (parent + 2) true (closed cs) ++ rest), l,
          k + 1 + (literalHints cs).length⟩) :=
    Cursor.span_append (fun d hd ↦ by simp [hline d hd]) hline fun d hd ↦ by
      obtain rfl : '\n' = d := Option.some.inj hd
      rfl
  -- a digit in the header counts from the parent, and otherwise the first line shows it
  have hindent : blockIndent parent (literalHints cs)
      ⟨literalBody (parent + 2) true (closed cs) ++ rest, l + 1, 0⟩ = parent + 2 := by
    unfold blockIndent
    rw [hhints]
    cases hstart : startsBlank cs with
    | true => rfl
    | false =>
      have hnone : chomping.find? Char.isDigit = none :=
        List.find?_eq_none.2 fun c hc ↦ by obtain rfl | rfl := hending.mem hc <;> decide
      rw [if_neg Bool.false_ne_true, List.nil_append, hnone, literalBody_closed, List.append_assoc,
        firstIndent_literalBody hcs hstart]
      exact Nat.max_eq_left (by omega)
  have hchomped : chomped (literalHints cs) (closed cs) = cs := by
    refine chomped_closed hending ?_
    rw [hhints]
    split
    · exact .inr rfl
    · exact .inl rfl
  refine ⟨l', ?_⟩
  rw [@literal_eq parent _ ⟨'\n' :: (literalBody (parent + 2) true (closed cs) ++ rest), l,
    k + 1 + (literalHints cs).length⟩ ⟨rest, l', 0⟩ (literalHints cs) (closed cs), hchomped]
  · rw [Cursor.next_char rfl]
    exact hspan
  · rw [Cursor.next_break rfl, hindent]
    exact hread

end Reader

end VolumeMigration.Yaml
