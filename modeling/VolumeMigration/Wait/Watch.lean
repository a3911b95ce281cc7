import VolumeMigration.Duration

/-!
# Watches

A watch delivers the successive states of something in a cluster, each some time after the
one before it. It may go on for ever without delivering anything more, its stream may end,
or it may fail.

Waiting is a search: `Watch.find` looks for the first state that `f` makes something of.
States of which `f` makes nothing are passed over and matter only by the time they take. A
deadline is no part of the search: `Watch.until` ends the stream there, and then the search
is made.
-/

namespace VolumeMigration

/-- What a watch delivers. -/
inductive Watch (α : Type) where
  /-- Nothing more, ever. -/
  | silent
  /-- The stream ends after this time. -/
  | closed (after : Duration)
  /-- The watch fails after this time. -/
  | failed (after : Duration) (reason : String)
  /-- A state after this time, and then the rest. -/
  | next (after : Duration) (state : α) (rest : Watch α)
  deriving Repr

/-- How a search in a watch ends, and when. -/
inductive Sighting (β : Type) where
  | found (time : Duration) (value : β)
  | failed (time : Duration) (reason : String)
  | closed (time : Duration)
  /-- The search goes on for ever. -/
  | never
  deriving DecidableEq, Repr

namespace Watch

variable {α β : Type}

/-- The states that a list gives, after which nothing more comes. -/
def ofList : List (Duration × α) → Watch α
  | [] => silent
  | (after, state) :: states => next after state (ofList states)

/-- The watch, ended at a deadline. What comes at that very moment comes too late. -/
def «until» (deadline : Duration) : Watch α → Watch α
  | silent => closed deadline
  | closed after => closed (if after < deadline then after else deadline)
  | failed after reason => if after < deadline then failed after reason else closed deadline
  | next after state rest =>
    if after < deadline then next after state (rest.until (deadline - after))
    else closed deadline

/-- Looks for the first state that `f` makes something of, from a moment on. -/
def findFrom (f : α → Option β) (clock : Duration) : Watch α → Sighting β
  | silent => .never
  | closed after => .closed (clock + after)
  | failed after reason => .failed (clock + after) reason
  | next after state rest =>
    match f state with
    | some value => .found (clock + after) value
    | none => findFrom f (clock + after) rest

/-- Looks for the first state that `f` makes something of. -/
def find (f : α → Option β) (w : Watch α) : Sighting β := findFrom f 0 w

/-- The states that the search passes over. -/
def passed (f : α → Option β) : Watch α → List α
  | next _ state rest =>
    match f state with
    | some _ => []
    | none => state :: passed f rest
  | _ => []

end Watch

end VolumeMigration
