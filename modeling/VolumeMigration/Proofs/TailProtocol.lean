import Mathlib.Data.List.Induction
import Mathlib.Tactic.Common
import VolumeMigration.Progress.Tail

/-!
# The protocol of a tail

Producers, the owner of a tail, whoever may cancel the run, and the consumer all act on their own,
and any of them may be next at any time. A schedule is therefore any list of moves (`Move`), and
what holds of a tail is stated over every schedule (`Tail.play_protocol`): which lines the sink has
observed, how and how often it was closed, why the consumer has left, and what it has told others.

`Tail.play` carries along what has happened (`Happening`), the latest last. The statements are about
that list; the state of the tail is tied to it by one invariant (`Tail.Keeps`), which holds in the
beginning and is kept by each move.

That a schedule in which the consumer gets its turns does come to an end is a statement of its own
(`Tail.exited_settle`): once the owner has ended the tail, or the run is cancelled, the consumer
leaves after one decision for each line that waits and three more.
-/

namespace VolumeMigration.Progress

/-- What somebody does next. -/
inductive Move where
  /-- A producer offers a line; without room in the channel nothing happens. -/
  | offer (line : String)
  /-- The last producer goes away. -/
  | closeChannel
  /-- The owner ends the tail, with a word or without. -/
  | deliver (signal : Signal)
  /-- Somebody cancels the run. -/
  | cancelRun
  /-- The consumer makes its next decision. -/
  | consume

/-- What has come of a move. -/
inductive Happening where
  /-- The channel has accepted a line. -/
  | accepted (line : String)
  /-- The owner's signal is there. -/
  | delivered (signal : Signal)
  | cancelled
  | decided (decision : Decision)

/-- A call by which a sink is closed. -/
inductive Closing where
  | finish
  | abandon
  deriving DecidableEq

/-- The sink after the call. -/
def Closing.apply (sink : Sink) : Closing → Sink
  | finish => sink.finish
  | abandon => sink.abandon

/-- How a sink is closed after a transfer. -/
def Closing.ofSuccess (success : Bool) : Closing := if success then finish else abandon

namespace Decision

/-- The line that the sink observes by a decision. -/
def observed? : Decision → Option String
  | take line => some line
  | _ => Option.none

/-- The call by which the sink is closed by a decision. -/
def closing? : Decision → Option Closing
  | giveUp => some .abandon
  | close success => some (.ofSuccess success)
  | _ => Option.none

/-- The word that is taken from the owner by a decision. -/
def heed? : Decision → Option Bool
  | heed success => some success
  | _ => Option.none

end Decision

namespace Happening

def accepted? : Happening → Option String
  | accepted line => some line
  | _ => Option.none

def observed? : Happening → Option String
  | decided decision => decision.observed?
  | _ => Option.none

def closing? : Happening → Option Closing
  | decided decision => decision.closing?
  | _ => Option.none

def heed? : Happening → Option Bool
  | decided decision => decision.heed?
  | _ => Option.none

end Happening

/-- The lines that the channel has accepted. -/
def acceptedLines (h : List Happening) : List String := h.filterMap Happening.accepted?

/-- The lines that the sink has observed. -/
def observedLines (h : List Happening) : List String := h.filterMap Happening.observed?

/-- The calls by which the sink was closed. -/
def closings (h : List Happening) : List Closing := h.filterMap Happening.closing?

namespace Tail

/-- The tail after a move. -/
def after (t : Tail) : Move → Tail
  | .offer line => (t.send [line]).1
  | .closeChannel => t.closeChannel
  | .deliver signal => t.deliver signal
  | .cancelRun => t.cancelRun
  | .consume => t.step.1

/-- What comes of a move, if anything does that others can tell. -/
def happening? (t : Tail) : Move → Option Happening
  | .offer line => if (t.send [line]).2 = 1 then some (.accepted line) else Option.none
  | .closeChannel => Option.none
  | .deliver signal => if t.signal.isSome then Option.none else some (.delivered signal)
  | .cancelRun => some .cancelled
  | .consume => some (.decided t.decision)

/-- A tail in front of a sink after a schedule, and what has happened. -/
def play (sink : Sink) (schedule : List Move) : Tail × List Happening :=
  schedule.foldl (fun (t, h) move ↦ (t.after move, h ++ (t.happening? move).toList)) (.new sink, [])

/-- How a tail behaves, whatever has happened to it. -/
structure Protocol (sink : Sink) (h : List Happening) (t : Tail) : Prop where
  /-- The sink is as the lines and the calls have left it. -/
  sink_eq : t.sink = (closings h).foldl Closing.apply (sink.observeAll (observedLines h)).1
  /-- Lines are observed in the order in which they were accepted, none of them twice and none
  left out before another one. -/
  observed_prefix : observedLines h <+: acceptedLines h
  /-- A consumer that waits has no line to take. -/
  observed_of_idle : t.decision = .idle → t.exited = false → observedLines h = acceptedLines h
  /-- A consumer that has taken the signal leaves no line behind that was accepted before the
  signal. -/
  observed_of_heed : t.exited = true → (∃ success, .decided (.heed success) ∈ h) →
    ∀ before signal, before ++ [.delivered signal] <+: h → acceptedLines before <+: observedLines h
  /-- The sink is closed at most once. -/
  closings_length : (closings h).length ≤ 1
  /-- When the consumer has left, the sink was closed, by `finish` if word of success was taken
  before a cancellation was seen and by `abandon` if not. -/
  closed : t.exited = true → ∃ closing, closings h = [closing] ∧ (closing = .finish ↔
    ∃ before, before ++ [.decided (.heed true)] <+: h ∧ .delivered (.finished true) ∈ before ∧
      .decided .giveUp ∉ before)
  /-- The signal is only taken while the run is not cancelled. -/
  heed_first : ∀ before success, before ++ [.decided (.heed success)] <+: h → .cancelled ∉ before
  /-- That the producers are gone is no reason to leave. -/
  reason : t.exited = true → (∃ signal, .delivered signal ∈ h) ∨ .cancelled ∈ h
  /-- A consumer that has left has told the producers to stop. -/
  stopped : t.exited = true → t.producersStopped = true ∧ t.stopped = true
  /-- The run is cancelled by others, never by the tail. -/
  runCancelled_iff : t.runCancelled = true ↔ .cancelled ∈ h

/-! ### What a decision depends on -/

/-- Whether there is a reason to leave. -/
def IsEnding (t : Tail) : Prop := t.signal.isSome = true ∨ t.stopped = true

/-- What has to be so for each decision. -/
inductive Decides (t : Tail) : Decision → Prop where
  | giveUp {linesOver : Bool} : t.consumer = .following linesOver → t.stopped = true →
    Decides t .giveUp
  | heed {linesOver : Bool} {signal : Signal} : t.consumer = .following linesOver →
    t.stopped = false → t.signal = some signal → Decides t (.heed signal.isSuccess)
  | takeNext {line : String} {queue : List String} : t.consumer = .following false →
    ¬t.IsEnding → t.queue = line :: queue → Decides t (.take line)
  | noteEnd : t.consumer = .following false → ¬t.IsEnding → t.queue = [] →
    t.producersGone = true → Decides t .noteEnd
  | wait : t.consumer = .following false → ¬t.IsEnding → t.queue = [] → Decides t .idle
  | waitBeyondEnd : t.consumer = .following true → ¬t.IsEnding → Decides t .idle
  | takeLeft {success : Bool} {line : String} {queue : List String} :
    t.consumer = .draining success → t.queue = line :: queue → Decides t (.take line)
  | close {success : Bool} : t.consumer = .draining success → t.queue = [] →
    Decides t (.close success)
  | leave : t.consumer = .leaving → Decides t .leave
  | gone : t.consumer = .gone → Decides t .idle

theorem decides (t : Tail) : t.Decides t.decision := by
  unfold decision
  split
  next linesOver hfollowing =>
    split
    next hstopped => exact .giveUp hfollowing hstopped
    next hstopped =>
      have hnot : t.stopped = false := by simpa using hstopped
      split
      next signal hsignal => exact .heed hfollowing hnot hsignal
      next hnone =>
        have hcalm : ¬t.IsEnding := by simp [IsEnding, hnone, hnot]
        split
        next hover => exact .waitBeyondEnd (hover ▸ hfollowing) hcalm
        next hover =>
          obtain rfl : linesOver = false := by simpa using hover
          split
          next line queue hqueue => exact .takeNext hfollowing hcalm hqueue
          next hqueue =>
            split
            next hgone => exact .noteEnd hfollowing hcalm hqueue hgone
            next => exact .wait hfollowing hcalm hqueue
  next success hdraining =>
    split
    next line queue hqueue => exact .takeLeft hdraining hqueue
    next hqueue => exact .close hdraining hqueue
  next hleaving => exact .leave hleaving
  next hgone => exact .gone hgone

/-! ### The invariant -/

/-- The words that the consumer has taken from the owner. -/
def heeds (h : List Happening) : List Bool := h.filterMap Happening.heed?

/-- What has happened to the sink, by how far the consumer is. -/
inductive Phase (h : List Happening) : Consumer → Prop where
  | following (linesOver : Bool) : heeds h = [] → closings h = [] → Phase h (.following linesOver)
  | draining (success : Bool) : heeds h = [success] → closings h = [] →
    Phase h (.draining success)
  | closed {c : Consumer} (success : Bool) : c = .leaving ∨ c = .gone → heeds h = [success] →
    closings h = [.ofSuccess success] → Phase h c
  | abandoned {c : Consumer} : c = .leaving ∨ c = .gone → heeds h = [] →
    closings h = [.abandon] → .cancelled ∈ h → Phase h c

/-- What each move keeps. -/
structure Keeps (sink : Sink) (h : List Happening) (t : Tail) : Prop where
  sink_eq : t.sink = (closings h).foldl Closing.apply (sink.observeAll (observedLines h)).1
  observed_prefix : observedLines h <+: acceptedLines h
  /-- Until the channel is closed, what was accepted and not observed still waits. -/
  queue_eq : t.exited = false → acceptedLines h = observedLines h ++ t.queue
  /-- A consumer that looks for no more lines misses none. -/
  linesOver : t.consumer = .following true → t.queue = [] ∧ t.producersGone = true
  phase : Phase h t.consumer
  heed : ∀ before success, before ++ [.decided (.heed success)] <+: h →
    .cancelled ∉ before ∧ .decided .giveUp ∉ before ∧
      ∃ signal, .delivered signal ∈ before ∧ signal.isSuccess = success
  /-- Behind the signal the channel is emptied before the sink is closed. -/
  drained : heeds h ≠ [] → closings h ≠ [] →
    ∀ before signal, before ++ [.delivered signal] <+: h → acceptedLines before <+: observedLines h
  delivered : ∀ signal, t.signal = some signal → .delivered signal ∈ h
  undelivered : t.signal = Option.none → ∀ signal, .delivered signal ∉ h
  runCancelled_iff : t.runCancelled = true ↔ .cancelled ∈ h
  producersStopped_eq : t.producersStopped = t.exited

section

variable {sink : Sink} {h : List Happening} {t : Tail}

theorem filterMap_concat {α β : Type} (f : α → Option β) (l : List α) (a : α) :
    (l ++ [a]).filterMap f = l.filterMap f ++ (f a).toList := by
  cases ha : f a with
  | none => simp [ha]
  | some b => simp [ha]

@[simp] theorem acceptedLines_decided (h : List Happening) (d : Decision) :
    acceptedLines (h ++ [.decided d]) = acceptedLines h := by
  simp [acceptedLines, Happening.accepted?]

@[simp] theorem observedLines_decided (h : List Happening) (d : Decision) :
    observedLines (h ++ [.decided d]) = observedLines h ++ d.observed?.toList :=
  filterMap_concat _ _ _

@[simp] theorem closings_decided (h : List Happening) (d : Decision) :
    closings (h ++ [.decided d]) = closings h ++ d.closing?.toList :=
  filterMap_concat _ _ _

@[simp] theorem heeds_decided (h : List Happening) (d : Decision) :
    heeds (h ++ [.decided d]) = heeds h ++ d.heed?.toList :=
  filterMap_concat _ _ _

theorem prefix_concat_concat_iff {α : Type} {before l : List α} {x a : α} :
    before ++ [x] <+: l ++ [a] ↔ (before = l ∧ x = a) ∨ before ++ [x] <+: l := by
  rw [List.prefix_concat_iff, List.append_singleton_inj]

theorem mem_heeds_iff {success : Bool} : success ∈ heeds h ↔ .decided (.heed success) ∈ h := by
  rw [heeds, List.mem_filterMap]
  constructor
  · rintro ⟨o, ho, hsome⟩
    rcases o with _ | _ | _ | d
    case decided =>
      cases d with
      | heed _ =>
        cases hsome
        exact ho
      | _ => cases hsome
    all_goals cases hsome
  · intro hmem
    exact ⟨_, hmem, rfl⟩

theorem observeAll_concat (sink : Sink) (lines : List String) (line : String) :
    (sink.observeAll (lines ++ [line])).1 = ((sink.observeAll lines).1.observe line).1 := by
  induction lines generalizing sink with
  | nil => rfl
  | cons first lines ih => exact ih (sink.observe first).1

namespace Phase

theorem of_following {linesOver : Bool} (hphase : Phase h (.following linesOver)) :
    heeds h = [] ∧ closings h = [] := by
  cases hphase with
  | following _ hheeds hclosings => exact ⟨hheeds, hclosings⟩
  | closed _ hconsumer => rcases hconsumer with hc | hc <;> cases hc
  | abandoned hconsumer => rcases hconsumer with hc | hc <;> cases hc

theorem of_draining {success : Bool} (hphase : Phase h (.draining success)) :
    heeds h = [success] ∧ closings h = [] := by
  cases hphase with
  | draining _ hheeds hclosings => exact ⟨hheeds, hclosings⟩
  | closed _ hconsumer => rcases hconsumer with hc | hc <;> cases hc
  | abandoned hconsumer => rcases hconsumer with hc | hc <;> cases hc

/-- What is neither a word taken from the owner nor a call to the sink changes no phase. -/
theorem congr {h' : List Happening} {c : Consumer} (hphase : Phase h c)
    (hheeds : heeds h' = heeds h) (hclosings : closings h' = closings h) (hmore : h ⊆ h') :
    Phase h' c := by
  cases hphase with
  | following linesOver hh hc => exact .following linesOver (hheeds.trans hh) (hclosings.trans hc)
  | draining success hh hc => exact .draining success (hheeds.trans hh) (hclosings.trans hc)
  | closed success hconsumer hh hc =>
    exact .closed success hconsumer (hheeds.trans hh) (hclosings.trans hc)
  | abandoned hconsumer hh hc hcancel =>
    exact .abandoned hconsumer (hheeds.trans hh) (hclosings.trans hc) (hmore hcancel)

theorem concat {c : Consumer} {d : Decision} (hphase : Phase h c) (hheed : d.heed? = Option.none)
    (hclosing : d.closing? = Option.none) : Phase (h ++ [.decided d]) c :=
  hphase.congr (by simp [hheed]) (by simp [hclosing]) (List.subset_append_left _ _)

/-- The sink is closed at most once. -/
theorem length_closings_le {c : Consumer} (hphase : Phase h c) : (closings h).length ≤ 1 := by
  cases hphase with
  | following _ _ hclosings => simp [hclosings]
  | draining _ _ hclosings => simp [hclosings]
  | closed _ _ _ hclosings => simp [hclosings]
  | abandoned _ _ hclosings => simp [hclosings]

/-- The consumer does not go without having closed the sink. -/
theorem closings_ne_nil (hphase : Phase h .gone) : closings h ≠ [] := by
  cases hphase with
  | closed _ _ _ hclosings => simp [hclosings]
  | abandoned _ _ hclosings => simp [hclosings]

end Phase

/-- In the beginning nothing has happened. -/
theorem keeps_new (sink : Sink) : Keeps sink [] (.new sink) where
  sink_eq := rfl
  observed_prefix := List.prefix_rfl
  queue_eq _ := rfl
  linesOver := nofun
  phase := .following false rfl rfl
  heed before _ hbegins := by simp at hbegins
  drained hheeds := absurd rfl hheeds
  delivered := nofun
  undelivered _ _ := List.not_mem_nil
  runCancelled_iff := by simp [new]
  producersStopped_eq := rfl

namespace Keeps

/-- A word that was taken from the owner was there before, and nothing had been given up. -/
theorem heed_of_mem (hk : Keeps sink h t) {success : Bool} (hmem : success ∈ heeds h) :
    ∃ before, before ++ [.decided (.heed success)] <+: h ∧
      (∃ signal, .delivered signal ∈ before ∧ signal.isSuccess = success) ∧
      .decided .giveUp ∉ before := by
  obtain ⟨before, rest, hsplit⟩ := List.append_of_mem (mem_heeds_iff.mp hmem)
  have hbegins : before ++ [.decided (.heed success)] <+: h := ⟨rest, by simp [hsplit]⟩
  obtain ⟨-, hgaveUp, hsignal⟩ := hk.heed before success hbegins
  exact ⟨before, hbegins, hsignal, hgaveUp⟩

/-- The signal is there before the consumer takes it. -/
theorem exists_delivered (hk : Keeps sink h t) (hheeds : heeds h ≠ []) :
    ∃ signal, .delivered signal ∈ h := by
  obtain ⟨success, hmem⟩ := List.exists_mem_of_ne_nil _ hheeds
  obtain ⟨before, hbegins, ⟨signal, hsignal, -⟩, -⟩ := hk.heed_of_mem hmem
  exact ⟨signal, hbegins.subset (List.mem_append_left _ hsignal)⟩

/-- What is not the consumer's doing leaves alone what the consumer has done. -/
theorem of_outside {t' : Tail} {o : Happening} (hk : Keeps sink h t)
    (ho : ∀ decision, o ≠ .decided decision) (hsink : t'.sink = t.sink)
    (hconsumer : t'.consumer = t.consumer) (hstopped : t'.producersStopped = t.producersStopped)
    (hqueue : t.exited = false → acceptedLines (h ++ [o]) = observedLines h ++ t'.queue)
    (hover : t.consumer = .following true → t'.queue = [] ∧ t'.producersGone = true)
    (hdelivered : ∀ signal, t'.signal = some signal → .delivered signal ∈ h ++ [o])
    (hundelivered : t'.signal = Option.none → ∀ signal, .delivered signal ∉ h ++ [o])
    (honce : ∀ signal, o = .delivered signal → t.signal = Option.none)
    (hcancelled : t'.runCancelled = true ↔ .cancelled ∈ h ++ [o]) : Keeps sink (h ++ [o]) t' := by
  have hobserved : observedLines (h ++ [o]) = observedLines h := by
    rw [observedLines, filterMap_concat]
    cases o <;> simp_all [Happening.observed?, observedLines]
  have hclosings : closings (h ++ [o]) = closings h := by
    rw [closings, filterMap_concat]
    cases o <;> simp_all [Happening.closing?, closings]
  have hheeds : heeds (h ++ [o]) = heeds h := by
    rw [heeds, filterMap_concat]
    cases o <;> simp_all [Happening.heed?, heeds]
  have haccepted : acceptedLines h <+: acceptedLines (h ++ [o]) :=
    (List.prefix_append h [o]).filterMap _
  constructor
  case sink_eq => rw [hsink, hclosings, hobserved, hk.sink_eq]
  case observed_prefix => exact hobserved ▸ hk.observed_prefix.trans haccepted
  case queue_eq =>
    intro hexited
    rw [hobserved]
    exact hqueue (by rw [← hexited, exited, exited, hconsumer])
  case linesOver => exact hconsumer ▸ hover
  case phase =>
    rw [hconsumer]
    exact hk.phase.congr hheeds hclosings (List.subset_append_left _ _)
  case heed =>
    intro before success hbegins
    rcases prefix_concat_concat_iff.mp hbegins with ⟨-, heq⟩ | hbegins
    · exact absurd heq.symm (ho _)
    · exact hk.heed before success hbegins
  case drained =>
    rw [hheeds, hclosings, hobserved]
    intro hheeds hclosings before signal hbegins
    rcases prefix_concat_concat_iff.mp hbegins with ⟨-, heq⟩ | hbegins
    · obtain ⟨earlier, hearlier⟩ := hk.exists_delivered hheeds
      exact absurd hearlier (hk.undelivered (honce signal heq.symm) earlier)
    · exact hk.drained hheeds hclosings before signal hbegins
  case delivered => exact hdelivered
  case undelivered => exact hundelivered
  case runCancelled_iff => exact hcancelled
  case producersStopped_eq =>
    rw [hstopped, hk.producersStopped_eq, exited, exited, hconsumer]

theorem deliver (hk : Keeps sink h t) (signal : Signal) (hnone : t.signal = Option.none) :
    Keeps sink (h ++ [.delivered signal]) (t.deliver signal) := by
  have hdeliver : t.deliver signal = { t with signal := some signal } := by
    simp [Tail.deliver, hnone]
  rw [hdeliver]
  refine hk.of_outside nofun rfl rfl rfl ?_ hk.linesOver ?_ nofun (fun _ _ ↦ hnone) ?_
  · intro hexited
    rw [← hk.queue_eq hexited]
    simp [acceptedLines, Happening.accepted?]
  · rintro _ ⟨⟩
    simp
  · simpa using hk.runCancelled_iff

theorem cancelRun (hk : Keeps sink h t) : Keeps sink (h ++ [.cancelled]) t.cancelRun := by
  refine hk.of_outside nofun rfl rfl rfl ?_ hk.linesOver ?_ ?_ nofun ?_
  · intro hexited
    show _ = observedLines h ++ t.queue
    rw [← hk.queue_eq hexited]
    simp [acceptedLines, Happening.accepted?]
  · intro signal hsignal
    exact List.mem_append_left _ (hk.delivered signal hsignal)
  · intro hsignal signal
    simpa using hk.undelivered hsignal signal
  · simp [Tail.cancelRun]

/-- A line that is accepted joins those that wait. -/
theorem accept (hk : Keeps sink h t) {line : String} (haccepted : (t.send [line]).2 = 1) :
    Keeps sink (h ++ [.accepted line]) (t.send [line]).1 := by
  obtain ⟨hexited, hgone, hsend⟩ : t.exited = false ∧ t.producersGone = false ∧
      (t.send [line]).1 = { t with queue := t.queue ++ [line] } := by
    unfold send at haccepted ⊢
    split at haccepted
    · cases haccepted
    next hopen =>
      have htake : [line].take (capacity - t.queue.length) = [line] := by
        refine List.take_of_length_le ?_
        by_contra hfull
        simp_all
      simp_all
  rw [hsend]
  refine hk.of_outside nofun rfl rfl rfl ?_ ?_ ?_ ?_ nofun ?_
  · intro hexited
    show _ = observedLines h ++ (t.queue ++ [line])
    rw [← List.append_assoc, ← hk.queue_eq hexited]
    simp [acceptedLines, Happening.accepted?]
  · intro hover
    exact absurd (hk.linesOver hover).2 (by simp [hgone])
  · intro signal hsignal
    exact List.mem_append_left _ (hk.delivered signal hsignal)
  · intro hsignal signal
    simpa using hk.undelivered hsignal signal
  · simpa using hk.runCancelled_iff

/-- What the consumer does leaves alone what others have done. -/
theorem of_decision {t' : Tail} {d : Decision} (hk : Keeps sink h t)
    (hsignal : t'.signal = t.signal) (hcancelled : t'.runCancelled = t.runCancelled)
    (hsink : t'.sink = (closings (h ++ [.decided d])).foldl Closing.apply
      (sink.observeAll (observedLines (h ++ [.decided d]))).1)
    (hbegins : observedLines (h ++ [.decided d]) <+: acceptedLines h)
    (hqueue : t'.exited = false → acceptedLines h = observedLines (h ++ [.decided d]) ++ t'.queue)
    (hover : t'.consumer = .following true → t'.queue = [] ∧ t'.producersGone = true)
    (hphase : Phase (h ++ [.decided d]) t'.consumer)
    (hheed : ∀ success, d = .heed success → .cancelled ∉ h ∧ .decided .giveUp ∉ h ∧
      ∃ signal, .delivered signal ∈ h ∧ signal.isSuccess = success)
    (hdrained : heeds (h ++ [.decided d]) ≠ [] → closings (h ++ [.decided d]) ≠ [] →
      (heeds h ≠ [] ∧ closings h ≠ []) ∨ observedLines h = acceptedLines h)
    (hstopped : t'.producersStopped = t'.exited) : Keeps sink (h ++ [.decided d]) t' := by
  have haccepted := acceptedLines_decided h d
  have hgrows : observedLines h <+: observedLines (h ++ [.decided d]) :=
    (List.prefix_append h _).filterMap _
  constructor
  case sink_eq => exact hsink
  case observed_prefix => exact haccepted ▸ hbegins
  case queue_eq => exact haccepted ▸ hqueue
  case linesOver => exact hover
  case phase => exact hphase
  case heed =>
    intro before success hbefore
    rcases prefix_concat_concat_iff.mp hbefore with ⟨rfl, heq⟩ | hbefore
    · exact hheed success (Happening.decided.inj heq).symm
    · exact hk.heed before success hbefore
  case drained =>
    intro hheeds hclosings before signal hbefore
    rcases prefix_concat_concat_iff.mp hbefore with ⟨-, heq⟩ | hbefore
    · cases heq
    · refine List.IsPrefix.trans ?_ hgrows
      rcases hdrained hheeds hclosings with ⟨hheeds, hclosings⟩ | hall
      · exact hk.drained hheeds hclosings before signal hbefore
      · rw [hall]
        exact ((List.prefix_append before _).trans hbefore).filterMap _
  case delivered =>
    intro signal hsome
    exact List.mem_append_left _ (hk.delivered signal (hsignal ▸ hsome))
  case undelivered =>
    intro hnone signal
    simpa using hk.undelivered (hsignal ▸ hnone) signal
  case runCancelled_iff => simpa [hcancelled] using hk.runCancelled_iff
  case producersStopped_eq => exact hstopped

/-- A decision that shows nowhere but in how far the consumer is. -/
theorem of_quiet {d : Decision} (hk : Keeps sink h t) (hobserved : d.observed? = Option.none)
    (hheed : d.heed? = Option.none) (hclosing : d.closing? = Option.none) {c : Consumer}
    (hover : c = .following true → t.queue = [] ∧ t.producersGone = true)
    (hphase : Phase h c) (hexited : (c == .gone) = t.exited) :
    Keeps sink (h ++ [.decided d]) { t with consumer := c } := by
  have hobserved : observedLines (h ++ [.decided d]) = observedLines h := by simp [hobserved]
  have hclosings : closings (h ++ [.decided d]) = closings h := by simp [hclosing]
  have hheeds : heeds (h ++ [.decided d]) = heeds h := by simp [hheed]
  refine hk.of_decision rfl rfl ?_ ?_ ?_ hover (hphase.concat hheed hclosing) ?_ ?_ ?_
  · rw [hobserved, hclosings]
    exact hk.sink_eq
  · rw [hobserved]
    exact hk.observed_prefix
  · intro hopen
    rw [hobserved]
    exact hk.queue_eq (hexited ▸ hopen)
  · rintro success rfl
    cases hheed
  · rw [hheeds, hclosings]
    exact fun hheeds hclosings ↦ Or.inl ⟨hheeds, hclosings⟩
  · exact hk.producersStopped_eq.trans hexited.symm

/-- A line is taken, be it before the signal or behind it. -/
theorem take {line : String} {queue : List String} (hk : Keeps sink h t)
    (hqueue : t.queue = line :: queue) (hexited : t.exited = false) (hclosings : closings h = []) :
    Keeps sink (h ++ [.decided (.take line)]) (t.carryOut (.take line)).1 := by
  have hobserved : observedLines (h ++ [.decided (.take line)]) = observedLines h ++ [line] :=
    observedLines_decided h _
  have hclosings' : closings (h ++ [.decided (.take line)]) = [] := by
    simp [hclosings, Decision.closing?]
  have hwaits : acceptedLines h = observedLines h ++ [line] ++ queue := by
    rw [hk.queue_eq hexited, hqueue, List.append_assoc]
    rfl
  refine hk.of_decision rfl rfl ?_ ?_ ?_ ?_ (hk.phase.concat rfl rfl) nofun ?_
    hk.producersStopped_eq
  · have hsink : t.sink = (sink.observeAll (observedLines h)).1 := by
      rw [hk.sink_eq, hclosings]
      rfl
    rw [hclosings', hobserved, observeAll_concat, ← hsink]
    rfl
  · rw [hobserved, hwaits]
    exact List.prefix_append _ _
  · intro _
    rw [hobserved, hwaits]
    show _ = _ ++ t.queue.tail
    rw [hqueue]
    rfl
  · intro hover
    exact absurd (hk.linesOver hover).1 (by simp [hqueue])
  · exact fun _ hc ↦ absurd hclosings' hc

/-- The consumer closes the sink, in whatever way. -/
theorem closeSink {d : Decision} (hk : Keeps sink h t) (closing : Closing)
    (hobserved : d.observed? = Option.none) (hheed : d.heed? = Option.none)
    (hclosing : d.closing? = some closing) (hexited : t.exited = false)
    (hclosings : closings h = [])
    (hphase : closings (h ++ [.decided d]) = [closing] → heeds (h ++ [.decided d]) = heeds h →
      Phase (h ++ [.decided d]) .leaving)
    (hdrained : heeds h ≠ [] → t.queue = []) :
    Keeps sink (h ++ [.decided d])
      { t with sink := closing.apply t.sink, consumer := .leaving } := by
  have hobserved : observedLines (h ++ [.decided d]) = observedLines h := by simp [hobserved]
  have hclosings' : closings (h ++ [.decided d]) = [closing] := by simp [hclosings, hclosing]
  have hheeds : heeds (h ++ [.decided d]) = heeds h := by simp [hheed]
  refine hk.of_decision rfl rfl ?_ ?_ ?_ nofun (hphase hclosings' hheeds) ?_ ?_ ?_
  · rw [hobserved, hclosings', hk.sink_eq, hclosings]
    rfl
  · rw [hobserved]
    exact hk.observed_prefix
  · intro _
    rw [hobserved]
    exact hk.queue_eq hexited
  · rintro success rfl
    cases hheed
  · intro hsome _
    have hempty := hdrained (hheeds ▸ hsome)
    refine Or.inr ?_
    rw [hk.queue_eq hexited, hempty, List.append_nil]
  · exact hk.producersStopped_eq.trans hexited

/-- The signal is taken. -/
theorem heedSignal {signal : Signal} {linesOver : Bool} (hk : Keeps sink h t)
    (hfollowing : t.consumer = .following linesOver) (hstopped : t.stopped = false)
    (hsignal : t.signal = some signal) :
    Keeps sink (h ++ [.decided (.heed signal.isSuccess)])
      (t.carryOut (.heed signal.isSuccess)).1 := by
  have hexited : t.exited = false := by simp [exited, hfollowing]
  obtain ⟨hheeds, hclosings⟩ := (hfollowing ▸ hk.phase).of_following
  have hobserved : observedLines (h ++ [.decided (.heed signal.isSuccess)]) = observedLines h := by
    simp [Decision.observed?]
  have hclosings' : closings (h ++ [.decided (.heed signal.isSuccess)]) = [] := by
    simp [Decision.closing?, hclosings]
  have hheeds' : heeds (h ++ [.decided (.heed signal.isSuccess)]) = [signal.isSuccess] := by
    simp [Decision.heed?, hheeds]
  refine hk.of_decision rfl rfl ?_ ?_ ?_ nofun (.draining _ hheeds' hclosings') ?_ ?_ ?_
  · rw [hobserved, hclosings', ← hclosings]
    exact hk.sink_eq
  · rw [hobserved]
    exact hk.observed_prefix
  · intro _
    rw [hobserved]
    exact hk.queue_eq hexited
  · rintro _ ⟨⟩
    have hrunning : t.runCancelled = false := (Bool.or_eq_false_iff.mp hstopped).2
    refine ⟨?_, ?_, signal, hk.delivered signal hsignal, rfl⟩
    · rw [← hk.runCancelled_iff, hrunning]
      exact Bool.false_ne_true
    · intro hgaveUp
      have hmem : Closing.abandon ∈ closings h :=
        List.mem_filterMap.mpr ⟨.decided .giveUp, hgaveUp, rfl⟩
      rw [hclosings] at hmem
      cases hmem
  · exact fun _ hc ↦ absurd hclosings' hc
  · exact hk.producersStopped_eq.trans hexited

/-- The channel is closed, and what still waits in it is lost. -/
theorem leave (hk : Keeps sink h t) (hleaving : t.consumer = .leaving) :
    Keeps sink (h ++ [.decided .leave]) (t.carryOut .leave).1 := by
  have hexited : t.exited = false := by simp [exited, hleaving]
  have hobserved : observedLines (h ++ [.decided .leave]) = observedLines h := by
    simp [Decision.observed?]
  have hclosings : closings (h ++ [.decided .leave]) = closings h := by simp [Decision.closing?]
  have hheeds : heeds (h ++ [.decided .leave]) = heeds h := by simp [Decision.heed?]
  refine hk.of_decision rfl rfl ?_ ?_ nofun nofun ?_ nofun ?_ rfl
  · rw [hobserved, hclosings]
    exact hk.sink_eq
  · rw [hobserved]
    exact hk.observed_prefix
  · have hphase := (hleaving ▸ hk.phase).concat (d := .leave) rfl rfl
    cases hphase with
    | closed success _ hheeds hclosings => exact .closed success (Or.inr rfl) hheeds hclosings
    | abandoned _ hheeds hclosings hcancel => exact .abandoned (Or.inr rfl) hheeds hclosings hcancel
  · rw [hheeds, hclosings]
    exact fun hheeds hclosings ↦ Or.inl ⟨hheeds, hclosings⟩

/-- Each decision of the consumer keeps the invariant. -/
theorem decide (hk : Keeps sink h t) : Keeps sink (h ++ [.decided t.decision]) t.step.1 := by
  have hdecides := t.decides
  rw [step]
  generalize t.decision = d at hdecides ⊢
  cases hdecides with
  | giveUp hfollowing hstopped =>
    have hexited : t.exited = false := by simp [exited, hfollowing]
    obtain ⟨hheeds, hclosings⟩ := (hfollowing ▸ hk.phase).of_following
    have hcancelled : t.runCancelled = true := by
      rcases (Bool.or_eq_true _ _).mp hstopped with hs | hc
      · rw [hk.producersStopped_eq, hexited] at hs
        cases hs
      · exact hc
    refine hk.closeSink .abandon rfl rfl rfl hexited hclosings ?_ (absurd hheeds)
    intro hclosings' hheeds'
    exact .abandoned (Or.inl rfl) (hheeds'.trans hheeds) hclosings'
      (List.mem_append_left _ (hk.runCancelled_iff.mp hcancelled))
  | heed hfollowing hstopped hsignal => exact hk.heedSignal hfollowing hstopped hsignal
  | takeNext hfollowing _ hqueue =>
    exact hk.take hqueue (by simp [exited, hfollowing]) (hfollowing ▸ hk.phase).of_following.2
  | noteEnd hfollowing _ hqueue hgone =>
    obtain ⟨hheeds, hclosings⟩ := (hfollowing ▸ hk.phase).of_following
    exact hk.of_quiet rfl rfl rfl (fun _ ↦ ⟨hqueue, hgone⟩) (.following true hheeds hclosings)
      (by simp [exited, hfollowing])
  | wait | waitBeyondEnd | gone => exact hk.of_quiet rfl rfl rfl hk.linesOver hk.phase rfl
  | takeLeft hdraining hqueue =>
    exact hk.take hqueue (by simp [exited, hdraining]) (hdraining ▸ hk.phase).of_draining.2
  | @close success hdraining hqueue =>
    have hexited : t.exited = false := by simp [exited, hdraining]
    obtain ⟨hheeds, hclosings⟩ := (hdraining ▸ hk.phase).of_draining
    have happly : (if success then t.sink.finish else t.sink.abandon) =
        (Closing.ofSuccess success).apply t.sink := by
      cases success <;> rfl
    rw [carryOut, happly]
    refine hk.closeSink _ rfl rfl rfl hexited hclosings ?_ (fun _ ↦ hqueue)
    intro hclosings' hheeds'
    exact .closed success (Or.inl rfl) (hheeds'.trans hheeds) hclosings'
  | leave hleaving => exact hk.leave hleaving

/-- Each move keeps the invariant. -/
theorem after (hk : Keeps sink h t) (move : Move) :
    Keeps sink (h ++ (t.happening? move).toList) (t.after move) := by
  cases move with
  | offer line =>
    rw [happening?]
    split
    next haccepted => exact hk.accept haccepted
    next hrefused =>
      have hsame : (t.send [line]).1 = t := by
        unfold send at hrefused ⊢
        split
        · rfl
        next hopen =>
          rw [if_neg hopen] at hrefused
          have htaken : ([line].take (capacity - t.queue.length)).length ≠ 1 := hrefused
          rw [List.length_take, List.length_singleton] at htaken
          have hfull : capacity - t.queue.length = 0 := by omega
          simp [hfull]
      rw [Tail.after, hsame]
      simpa using hk
  | closeChannel =>
    rw [happening?, Option.toList_none, List.append_nil]
    exact { hk with linesOver := fun hover ↦ ⟨(hk.linesOver hover).1, rfl⟩ }
  | deliver signal =>
    rw [happening?]
    split
    next hended =>
      rw [Tail.after, Tail.deliver, if_pos hended]
      simpa using hk
    next hopen => exact hk.deliver signal (by simpa using hopen)
  | cancelRun => exact hk.cancelRun
  | consume => exact hk.decide

/-- A consumer that is gone has closed the sink, by `finish` exactly if it took word of success
before it saw a cancellation. -/
theorem closed (hk : Keeps sink h t) (hgone : t.consumer = .gone) :
    ∃ closing, closings h = [closing] ∧ (closing = .finish ↔
      ∃ before, before ++ [.decided (.heed true)] <+: h ∧ .delivered (.finished true) ∈ before ∧
        .decided .giveUp ∉ before) := by
  have hheeded : ∀ before, before ++ [.decided (.heed true)] <+: h → true ∈ heeds h := by
    intro before hbegins
    exact mem_heeds_iff.mpr (hbegins.subset (by simp))
  have hphase := hk.phase
  rw [hgone] at hphase
  cases hphase with
  | closed success _ hheeds hclosings =>
    refine ⟨_, hclosings, ?_, ?_⟩
    · intro hfinish
      obtain rfl : success = true := by
        cases success with
        | true => rfl
        | false => cases hfinish
      obtain ⟨before, hbegins, ⟨signal, hsignal, hsuccess⟩, hgaveUp⟩ :=
        hk.heed_of_mem (hheeds ▸ List.mem_singleton_self true)
      refine ⟨before, hbegins, ?_, hgaveUp⟩
      cases signal with
      | finished word =>
        obtain rfl : word = true := hsuccess
        exact hsignal
      | dropped => cases hsuccess
    · rintro ⟨before, hbegins, -, -⟩
      have hmem := hheeded before hbegins
      rw [hheeds, List.mem_singleton] at hmem
      rw [← hmem]
      rfl
  | abandoned _ hheeds hclosings =>
    refine ⟨_, hclosings, nofun, ?_⟩
    rintro ⟨before, hbegins, -, -⟩
    have hmem := hheeded before hbegins
    rw [hheeds] at hmem
    cases hmem

/-- A consumer that is gone had a reason to go. -/
theorem reason (hk : Keeps sink h t) (hgone : t.consumer = .gone) :
    (∃ signal, .delivered signal ∈ h) ∨ .cancelled ∈ h := by
  have hphase := hk.phase
  rw [hgone] at hphase
  cases hphase with
  | closed _ _ hheeds _ => exact Or.inl (hk.exists_delivered (by simp [hheeds]))
  | abandoned _ _ _ hcancelled => exact Or.inr hcancelled

end Keeps

/-- Whatever the schedule, the invariant holds. -/
theorem keeps_play (sink : Sink) (schedule : List Move) :
    Keeps sink (play sink schedule).2 (play sink schedule).1 := by
  induction schedule using List.reverseRecOn with
  | nil => exact keeps_new sink
  | append_singleton schedule move ih =>
    rw [play, List.foldl_append]
    exact ih.after move

end

/-- Whatever producers, owner and others do, and whenever the consumer gets its turns, a tail
behaves as it should. -/
theorem play_protocol (sink : Sink) (schedule : List Move) :
    Protocol sink (play sink schedule).2 (play sink schedule).1 := by
  have hk := keeps_play sink schedule
  generalize (play sink schedule).1 = t at hk ⊢
  generalize (play sink schedule).2 = h at hk ⊢
  have hgone : t.exited = true → t.consumer = .gone := by simp [exited]
  constructor
  case sink_eq => exact hk.sink_eq
  case observed_prefix => exact hk.observed_prefix
  case observed_of_idle =>
    intro hidle hexited
    have hempty : t.queue = [] := by
      have hdecides := t.decides
      rw [hidle] at hdecides
      cases hdecides with
      | wait _ _ hqueue => exact hqueue
      | waitBeyondEnd hover _ => exact (hk.linesOver hover).1
      | gone hgone => simp [exited, hgone] at hexited
    rw [hk.queue_eq hexited, hempty, List.append_nil]
  case observed_of_heed =>
    rintro hexited ⟨success, hheed⟩ before signal hbefore
    have hclosings : closings h ≠ [] := (hgone hexited ▸ hk.phase).closings_ne_nil
    exact hk.drained (List.ne_nil_of_mem (mem_heeds_iff.mpr hheed)) hclosings before signal hbefore
  case closings_length => exact hk.phase.length_closings_le
  case closed => exact fun hexited ↦ hk.closed (hgone hexited)
  case heed_first => exact fun before success hbegins ↦ (hk.heed before success hbegins).1
  case reason => exact fun hexited ↦ hk.reason (hgone hexited)
  case stopped =>
    intro hexited
    have hstopped : t.producersStopped = true := hk.producersStopped_eq.trans hexited
    exact ⟨hstopped, by simp [Tail.stopped, hstopped]⟩
  case runCancelled_iff => exact hk.runCancelled_iff

/-- A cancellation that comes before the owner's word, and a line that nobody observes. -/
example :
    let (t, h) := play .logOnly [.offer "a", .offer "b", .consume, .closeChannel, .cancelRun,
      .deliver (.finished true), .consume, .consume]
    t.exited = true ∧ acceptedLines h = ["a", "b"] ∧ observedLines h = ["a"] ∧
      closings h = [.abandon] := by
  decide +kernel

/-! ### The consumer leaves -/

/-- How many decisions are left when there is a reason to leave. -/
def decisionsLeft (t : Tail) : Nat :=
  match t.consumer with
  | .following _ => t.queue.length + 3
  | .draining _ => t.queue.length + 2
  | .leaving => 1
  | .gone => 0

section

variable {t : Tail}

theorem signal_step (t : Tail) : t.step.1.signal = t.signal := by
  rw [step]
  cases t.decision <;> rfl

theorem signal_run (t : Tail) (steps : Nat) : (t.run steps).1.signal = t.signal := by
  induction steps generalizing t with
  | zero => rfl
  | succ steps ih => exact (ih t.step.1).trans t.signal_step

theorem signal_settle (t : Tail) : t.settle.1.signal = t.signal := t.signal_run _

theorem signal_send (t : Tail) (lines : List String) : (t.send lines).1.signal = t.signal := by
  unfold send
  split <;> rfl

theorem IsEnding.step (hending : t.IsEnding) : t.step.1.IsEnding := by
  rcases hending with hsignal | hstopped
  · exact Or.inl (t.signal_step ▸ hsignal)
  · refine Or.inr ?_
    rw [Tail.step]
    cases t.decision with
    | leave => rfl
    | _ => exact hstopped

/-- With a reason to leave each decision brings the consumer nearer to it. -/
theorem decisionsLeft_step (hending : t.IsEnding) :
    t.step.1.decisionsLeft ≤ t.decisionsLeft - 1 := by
  have hdecides := t.decides
  rw [Tail.step]
  generalize t.decision = d at hdecides ⊢
  cases hdecides with
  | giveUp hfollowing _ =>
    have hnow : t.decisionsLeft = t.queue.length + 3 := by rw [decisionsLeft, hfollowing]
    rw [hnow]
    show 1 ≤ t.queue.length + 3 - 1
    omega
  | heed hfollowing _ _ =>
    have hnow : t.decisionsLeft = t.queue.length + 3 := by rw [decisionsLeft, hfollowing]
    rw [hnow]
    exact Nat.le_refl _
  | takeNext _ hcalm _ => exact absurd hending hcalm
  | noteEnd _ hcalm _ _ => exact absurd hending hcalm
  | wait _ hcalm _ => exact absurd hending hcalm
  | waitBeyondEnd _ hcalm => exact absurd hending hcalm
  | takeLeft hdraining hqueue =>
    simp [decisionsLeft, carryOut, hdraining, hqueue]
  | close hdraining _ =>
    have hnow : t.decisionsLeft = t.queue.length + 2 := by rw [decisionsLeft, hdraining]
    rw [hnow]
    show 1 ≤ t.queue.length + 2 - 1
    omega
  | leave _ => exact Nat.zero_le _
  | gone hgone =>
    have hnow : t.decisionsLeft = 0 := by rw [decisionsLeft, hgone]
    show t.decisionsLeft ≤ t.decisionsLeft - 1
    omega

theorem exited_of_decisionsLeft_eq_zero (h : t.decisionsLeft = 0) : t.exited = true := by
  unfold decisionsLeft at h
  split at h
  · omega
  · omega
  · omega
  next hgone => simp [exited, hgone]

/-- With a reason to leave the consumer has left after so many decisions. -/
theorem exited_run (hending : t.IsEnding) {steps : Nat} (hsteps : t.decisionsLeft ≤ steps) :
    (t.run steps).1.exited = true := by
  induction steps generalizing t with
  | zero => exact exited_of_decisionsLeft_eq_zero (Nat.le_zero.mp hsteps)
  | succ steps ih =>
    have hnext : t.step.1.decisionsLeft ≤ t.decisionsLeft - 1 := decisionsLeft_step hending
    have hrest : t.step.1.decisionsLeft ≤ steps := by omega
    exact ih hending.step hrest

/-- A tail that was ended, or whose run was cancelled, has come to its end when it has settled. -/
theorem exited_settle (hending : t.IsEnding) : t.settle.1.exited = true := by
  have hleft : t.decisionsLeft ≤ t.queue.length + 3 := by
    unfold decisionsLeft
    split <;> omega
  exact exited_run hending hleft

/-- An owner who waits for the consumer does not wait in vain. -/
theorem exited_finish (hopen : t.signal = Option.none) (success : Bool) :
    (t.finish success).1.exited = true := by
  have hending : (t.deliver (.finished success)).IsEnding :=
    Or.inl (by simp [Tail.deliver, hopen])
  have hfinish : (t.finish success).1.exited = (t.deliver (.finished success)).settle.1.exited := by
    simp [Tail.finish, hopen, exited]
  rw [hfinish]
  exact exited_settle hending

end

end Tail

end VolumeMigration.Progress
