import LocaleLint.Pattern.Meaning
import LocaleLint.Pattern.Program

/-!
# Searching

A program runs as a list of threads in order of preference, which take the characters of the text in
step. At each place no address is entered twice, so a later thread with the same future as an
earlier one is dropped. A search tries the places of a text from left to right.
-/

namespace LocaleLint.Pattern

/-- The positions that a thread has noted, with their slots, latest first. -/
abbrev Marks := List (Nat × Nat)

/-- A way through a program so far. -/
structure Thread where
  address : Nat
  marks : Marks
deriving Repr, DecidableEq

/-- Follows the steps that take no character. The threads in `pending` are followed in order, with
their continuations in front; what is left are the threads that wait for a character, up to the
first that accepts, which comes last. An address that was visited is not followed again. Each round
takes one thread and adds at most two for an address that was not visited, so `fuel` is the number
of threads and twice the number of addresses. -/
def settle (program : Program) (place : Place) :
    (fuel : Nat) → (pending : List Thread) → (visited : List Nat) → List Thread
  | 0, _, _ => []
  | _ + 1, [], _ => []
  | fuel + 1, thread :: pending, visited =>
    if visited.contains thread.address then settle program place fuel pending visited else
    let visited := thread.address :: visited
    match program[thread.address]? with
    | none => settle program place fuel pending visited
    | some (.one _ _) => thread :: settle program place fuel pending visited
    | some (.look condition next) =>
      if place.satisfies condition then
        settle program place fuel ({ thread with address := next } :: pending) visited
      else settle program place fuel pending visited
    | some (.mark slot next) =>
      settle program place fuel (⟨next, (slot, place.position) :: thread.marks⟩ :: pending) visited
    | some (.jump next) =>
      settle program place fuel ({ thread with address := next } :: pending) visited
    | some (.fork first second) =>
      settle program place fuel
        ({ thread with address := first } :: { thread with address := second } :: pending) visited
    | some .accept => [thread]

/-- The threads at a place once the steps that take no character are done. -/
def settled (program : Program) (place : Place) (threads : List Thread) : List Thread :=
  settle program place (threads.length + 2 * program.size + 1) threads []

/-- The thread behind a character that it takes. -/
def Thread.take? (program : Program) (c : Char) (thread : Thread) : Option Thread :=
  match program[thread.address]? with
  | some (.one cls next) => if cls.has c then some { thread with address := next } else none
  | _ => none

/-- The threads that go on with a character. -/
def take (program : Program) (c : Char) (threads : List Thread) : List Thread :=
  threads.filterMap (Thread.take? program c)

/-- The position and the marks of a thread that accepts at a place. -/
def Thread.accepted? (program : Program) (place : Place) (thread : Thread) : Option (Nat × Marks) :=
  match program[thread.address]? with
  | some .accept => some (place.position, thread.marks)
  | _ => none

/-- The end of the thread that accepts at a place, if there is one among settled threads. -/
def accepted? (program : Program) (place : Place) (threads : List Thread) : Option (Nat × Marks) :=
  threads.findSome? (Thread.accepted? program place)

/-- Runs threads to their end: the position at which the preferred one of those that accept does so,
and its marks. -/
def run (program : Program) :
    (position : Nat) → (before : Option Char) → (rest : Text) → (threads : List Thread) →
      Option (Nat × Marks)
  | position, before, [], threads =>
    let place : Place := ⟨position, before, []⟩
    accepted? program place (settled program place threads)
  | position, before, c :: rest, threads =>
    let place : Place := ⟨position, before, c :: rest⟩
    let threads := settled program place threads
    match take program c threads with
    | [] => accepted? program place threads
    | next =>
      match run program (position + 1) (some c) rest next with
      | some result => some result
      | none => accepted? program place threads

/-- A match: where it starts and stops, and the marks of its groups. -/
structure Match where
  start : Nat
  stop : Nat
  marks : Marks
deriving Repr, DecidableEq

/-- The ends of a group in a match, if the group takes part in it. -/
def Match.group? (m : Match) (index : Nat) : Option (Nat × Nat) := do
  let start ← m.marks.lookup (2 * index)
  let stop ← m.marks.lookup (2 * index + 1)
  return (start, stop)

/-- The match that starts at a place. -/
def matchAt (program : Program) (place : Place) : Option Match :=
  (run program place.position place.before place.rest [⟨0, []⟩]).map fun (stop, marks) =>
    ⟨place.position, stop, marks⟩

/-- The leftmost match that starts at a place or behind it. -/
def search (program : Program) :
    (position : Nat) → (before : Option Char) → (rest : Text) → Option Match
  | position, before, [] => matchAt program ⟨position, before, []⟩
  | position, before, c :: rest =>
    match matchAt program ⟨position, before, c :: rest⟩ with
    | some m => some m
    | none => search program (position + 1) (some c) rest

/-- The leftmost match behind a place. -/
def searchBehind (program : Program) (place : Place) : Option Match :=
  match place.rest with
  | [] => none
  | c :: rest => search program (place.position + 1) (some c) rest

/-- The matches from a place on, one behind the other. A match that is empty and touches the last
one does not count; the next one is then looked for one character further on. Matches end further
and further to the right, so `fuel` is the number of places. -/
def matchesFrom (program : Program) :
    (fuel : Nat) → (place : Place) → (last : Option Nat) → List Match
  | 0, _, _ => []
  | fuel + 1, place, last =>
    let found :=
      match search program place.position place.before place.rest with
      | some m =>
        if m.start == m.stop && some m.stop == last then searchBehind program place else some m
      | none => none
    match found with
    | none => []
    | some m =>
      m :: matchesFrom program fuel (place.advance (m.stop - place.position)) (some m.stop)

end Pattern

/-- A pattern that is ready to be searched for. -/
structure Pattern where
  program : Pattern.Program
  groupCount : Nat
  groupNames : List (Text × Nat)

namespace Pattern

/-- The pattern of a text under some flags, or the first fault in it. -/
def compile (flags : Flags) (text : Text) : Except Fault Pattern := do
  let (ast, groupCount) ← Ast.ofText text
  let (regex, _) ← ast.toRegex flags
  return ⟨regex.program, groupCount, ast.groupNames⟩

/-- The matches in a text, from left to right. -/
def matchesIn (pattern : Pattern) (text : Text) : List Match :=
  matchesFrom pattern.program (text.length + 2) (.start text) none

/-- Whether a text holds a match. -/
def occursIn (pattern : Pattern) (text : Text) : Bool :=
  (search pattern.program 0 none text).isSome

/-- The ends of a group with a name in a match, if the group takes part in it. -/
def namedGroup? (pattern : Pattern) (name : Text) (m : Match) : Option (Nat × Nat) :=
  (pattern.groupNames.lookup name).bind m.group?

end Pattern

end LocaleLint
