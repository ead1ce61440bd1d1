/-
A tool that is read while it runs.

A started tool writes bytes on its two streams and ends.  Meanwhile each stream has a reader, which
takes what is there in chunks and stops where the stream is at its end, and one more waits for the
tool.  The three go on in any order: chunks are cut anywhere, also in the middle of a character,
and the exit code may be known long before the last bytes are read.  Main statements:

* `accounts_of_reaches` — by induction on the steps, what a reader has, what is in its pipe and
  what the tool has still to write are together what the tool writes on that stream;
* `isFinished_of_stuck`, `wellFounded_step` — no reading gets stuck, and none goes on forever;
* `run_of_child` — however a tool was read, its outcome is the same.
-/
import Mathlib.Logic.Function.Basic
import Mathlib.Logic.Relation
import Mathlib.Order.WellFounded
import MockServer.Build.Tool
import MockServer.Proofs.Text.Utf8

namespace MockServer.Build

/-- What a started tool does: the bytes that it writes, each on one of its streams, and its exit
code, which a tool that is ended by a signal has not. -/
structure Child where
  writes : List (Stream × UInt8)
  code : Option Int

/-- The bytes of one stream. -/
def bytesOn (stream : Stream) (writes : List (Stream × UInt8)) : List UInt8 :=
  (writes.filter (·.1 = stream)).map Prod.snd

/-- What becomes known of a tool: all of its output where it exits with zero, and all of its errors
where it does not. -/
def Child.outcome (child : Child) : Outcome :=
  if child.code = some 0 then .succeeded (Text.decodeLossy (bytesOn .output child.writes))
  else .exited child.code (Text.decodeLossy (bytesOn .errors child.writes))

/-- The most bytes that are read at once. -/
def chunkSize : ℕ := 4096

/-- A tool that is being read: what it has still to write and whether it has ended; what stands in
the pipe of each stream, what its reader has, and whether that has met the end; what the wait for
the tool gave; and the pieces in the order in which they were read. -/
structure Reading where
  ahead : List (Stream × UInt8)
  ended : Bool
  pipe : Stream → List UInt8
  kept : Stream → List UInt8
  closed : Stream → Bool
  status : Option (Option Int)
  pieces : List Piece

namespace Reading

/-- A tool that was just started. -/
def start (child : Child) : Reading :=
  ⟨child.writes, false, fun _ => [], fun _ => [], fun _ => false, none, []⟩

/-- The steps of a tool with some exit code, of its readers and of the wait.  A pipe takes one more
byte as long as it holds no more than `room`. -/
inductive Step (room : ℕ) (code : Option Int) : Reading → Reading → Prop where
  | write {s : Reading} {stream : Stream} {byte : UInt8} {rest : List (Stream × UInt8)}
      (writes : s.ahead = (stream, byte) :: rest) (takes : (s.pipe stream).length ≤ room) :
      Step room code s { s with
        ahead := rest
        pipe := Function.update s.pipe stream (s.pipe stream ++ [byte]) }
  | exit {s : Reading} (written : s.ahead = []) (running : s.ended = false) :
      Step room code s { s with ended := true }
  | read {s : Reading} {stream : Stream} {chunk rest : List UInt8} (opened : s.closed stream = false)
      (there : s.pipe stream = chunk ++ rest) (nonempty : chunk ≠ [])
      (short : chunk.length ≤ chunkSize) :
      Step room code s { s with
        pipe := Function.update s.pipe stream rest
        kept := Function.update s.kept stream (s.kept stream ++ chunk)
        pieces := s.pieces ++ [⟨stream, chunk⟩] }
  | close {s : Reading} {stream : Stream} (opened : s.closed stream = false)
      (ended : s.ended = true) (empty : s.pipe stream = []) :
      Step room code s { s with closed := Function.update s.closed stream true }
  | wait {s : Reading} (ended : s.ended = true) (waiting : s.status = none) :
      Step room code s { s with status := some code }

/-- What may have come of a started tool. -/
def Reaches (room : ℕ) (child : Child) : Reading → Prop :=
  Relation.ReflTransGen (Step room child.code) (start child)

/-- All three are done. -/
structure IsFinished (s : Reading) : Prop where
  closed_output : s.closed .output = true
  closed_errors : s.closed .errors = true
  status_ne : s.status ≠ none

/-- What is known of a tool in the end. -/
def behaviour (s : Reading) : Behaviour :=
  .ended s.pieces s.status.join

variable {room : ℕ} {child : Child} {s s' : Reading}

/-! ### Nothing is lost -/

/-- The accounts of a reading: each byte is with the reader of its stream, in the pipe or still to
be written, once and in order. -/
structure Accounts (child : Child) (s : Reading) : Prop where
  kept_eq : ∀ stream, s.kept stream = collected stream s.pieces
  bytes_eq : ∀ stream,
    s.kept stream ++ s.pipe stream ++ bytesOn stream s.ahead = bytesOn stream child.writes
  written : s.ended = true → s.ahead = []
  closed : ∀ stream, s.closed stream = true → s.ended = true ∧ s.pipe stream = []
  status : s.status = none ∨ s.status = some child.code

theorem bytesOn_cons_self (stream : Stream) (byte : UInt8) (rest : List (Stream × UInt8)) :
    bytesOn stream ((stream, byte) :: rest) = byte :: bytesOn stream rest := by
  rw [bytesOn, List.filter_cons_of_pos (by simp)]
  rfl

theorem bytesOn_cons_of_ne {stream other : Stream} (h : other ≠ stream) (byte : UInt8)
    (rest : List (Stream × UInt8)) : bytesOn other ((stream, byte) :: rest) = bytesOn other rest := by
  rw [bytesOn, List.filter_cons_of_neg (by simpa using Ne.symm h), bytesOn]

theorem collected_concat_self (stream : Stream) (pieces : List Piece) (chunk : List UInt8) :
    collected stream (pieces ++ [⟨stream, chunk⟩]) = collected stream pieces ++ chunk := by
  simp [collected]

theorem collected_concat_of_ne {stream other : Stream} (h : other ≠ stream) (pieces : List Piece)
    (chunk : List UInt8) :
    collected other (pieces ++ [⟨stream, chunk⟩]) = collected other pieces := by
  simp [collected, Ne.symm h]

theorem accounts_start (child : Child) : Accounts child (start child) where
  kept_eq _ := rfl
  bytes_eq _ := rfl
  written := nofun
  closed _ := nofun
  status := .inl rfl

/-- Every step keeps the accounts. -/
theorem accounts_step (h : Accounts child s) (hstep : Step room child.code s s') :
    Accounts child s' := by
  cases hstep with
  | @write stream byte rest hahead _ =>
    have hended : s.ended = true → False := fun hended => by
      rw [h.written hended] at hahead
      cases hahead
    refine ⟨h.kept_eq, fun other => ?_, fun he => (hended he).elim, fun other hclosed => ?_, h.status⟩
    · have hbytes := h.bytes_eq other
      by_cases hother : other = stream
      · subst hother
        rw [hahead, bytesOn_cons_self] at hbytes
        dsimp only
        rw [Function.update_self, ← hbytes, List.append_assoc, List.append_assoc, List.append_assoc]
        rfl
      · rw [hahead, bytesOn_cons_of_ne hother] at hbytes
        dsimp only
        rw [Function.update_of_ne hother, hbytes]
    · exact (hended (h.closed other hclosed).1).elim
  | exit hahead _ =>
    exact ⟨h.kept_eq, h.bytes_eq, fun _ => hahead, fun other hc => ⟨rfl, (h.closed other hc).2⟩,
      h.status⟩
  | @read stream chunk rest hopened hpipe _ _ =>
    -- The chunk goes from the pipe to the reader of the same stream, and nothing else is moved.
    refine ⟨fun other => ?_, fun other => ?_, h.written, fun other hclosed => ?_, h.status⟩ <;>
      dsimp only
    · by_cases hother : other = stream
      · subst hother
        rw [Function.update_self, collected_concat_self, h.kept_eq]
      · rw [Function.update_of_ne hother, collected_concat_of_ne hother, h.kept_eq]
    · by_cases hother : other = stream
      · subst hother
        rw [Function.update_self, Function.update_self, ← h.bytes_eq, hpipe, List.append_assoc _ chunk]
      · rw [Function.update_of_ne hother, Function.update_of_ne hother, h.bytes_eq]
    · have hother : other ≠ stream := by
        rintro rfl
        cases hopened.symm.trans hclosed
      rw [Function.update_of_ne hother]
      exact h.closed other hclosed
  | @close stream _ hended hpipe =>
    refine ⟨h.kept_eq, h.bytes_eq, h.written, fun other hclosed => ?_, h.status⟩
    dsimp only at hclosed
    by_cases hother : other = stream
    · subst hother
      exact ⟨hended, hpipe⟩
    · rw [Function.update_of_ne hother] at hclosed
      exact h.closed other hclosed
  | wait _ _ => exact ⟨h.kept_eq, h.bytes_eq, h.written, h.closed, .inr rfl⟩

theorem accounts_of_reaches (h : Reaches room child s) : Accounts child s := by
  induction h with
  | refl => exact accounts_start child
  | tail _ hstep ih => exact accounts_step ih hstep

/-- In the end each reader has all bytes of its stream. -/
theorem kept_of_isFinished (h : Accounts child s) (hfinished : s.IsFinished) (stream : Stream) :
    s.kept stream = bytesOn stream child.writes := by
  have hclosed : s.closed stream = true := by
    cases stream with
    | output => exact hfinished.closed_output
    | errors => exact hfinished.closed_errors
  obtain ⟨hended, hpipe⟩ := h.closed stream hclosed
  have hbytes := h.bytes_eq stream
  rw [hpipe, h.written hended] at hbytes
  rw [← hbytes, List.append_nil]
  exact (List.append_nil _).symm

theorem status_of_isFinished (h : Accounts child s) (hfinished : s.IsFinished) :
    s.status = some child.code := by
  rcases h.status with hnone | hcode
  · exact absurd hnone hfinished.status_ne
  · exact hcode

/-! ### No reading gets stuck -/

theorem exists_step_of_pipe {code : Option Int} {stream : Stream} (hopened : s.closed stream = false)
    (hpipe : s.pipe stream ≠ []) : ∃ s', Step room code s s' := by
  obtain ⟨byte, rest, hcons⟩ := List.exists_cons_of_ne_nil hpipe
  have hthere : s.pipe stream = [byte] ++ rest := hcons
  exact ⟨_, .read hopened hthere (List.cons_ne_nil _ _) (by rw [List.length_singleton]; decide)⟩

theorem exists_step_of_opened {code : Option Int} {stream : Stream} (hended : s.ended = true)
    (hopened : s.closed stream = false) : ∃ s', Step room code s s' := by
  by_cases hpipe : s.pipe stream = []
  · exact ⟨_, .close hopened hended hpipe⟩
  · exact exists_step_of_pipe hopened hpipe

/-- Where nothing can be done any more, all is done. -/
theorem isFinished_of_stuck (h : Accounts child s) (hstuck : ∀ s', ¬ Step room child.code s s') :
    s.IsFinished := by
  have hnone : ¬ ∃ s', Step room child.code s s' := fun ⟨s', hstep⟩ => hstuck s' hstep
  -- A tool that has still to write can do so, or the pipe is full and can be read.
  have hahead : s.ahead = [] := by
    by_contra hne
    obtain ⟨⟨stream, byte⟩, rest, hcons⟩ := List.exists_cons_of_ne_nil hne
    by_cases hroom : (s.pipe stream).length ≤ room
    · exact hnone ⟨_, .write hcons hroom⟩
    · have hopened : s.closed stream = false := by
        rw [Bool.eq_false_iff]
        intro hclosed
        exact hne (h.written (h.closed stream hclosed).1)
      refine hnone (exists_step_of_pipe hopened ?_)
      rintro hempty
      rw [hempty] at hroom
      exact hroom (Nat.zero_le _)
  have hended : s.ended = true := by
    by_contra hrunning
    exact hnone ⟨_, .exit hahead (Bool.eq_false_iff.2 hrunning)⟩
  have hclosed : ∀ stream, s.closed stream = true := by
    intro stream
    by_contra hopened
    exact hnone (exists_step_of_opened hended (Bool.eq_false_iff.2 hopened))
  exact ⟨hclosed _, hclosed _, fun hwaiting => hnone ⟨_, .wait hended hwaiting⟩⟩

/-! ### No reading goes on forever -/

/-- How much there is to do: each byte is to be written and to be read, and then there are the
exit, two ends and the wait. -/
def work (s : Reading) : ℕ :=
  2 * s.ahead.length + (s.pipe .output).length + (s.pipe .errors).length
    + (!s.ended).toNat + (!s.closed .output).toNat + (!s.closed .errors).toNat
    + s.status.isNone.toNat

theorem work_lt_of_step {code : Option Int} (h : Step room code s s') : s'.work < s.work := by
  cases h with
  | @write stream byte rest hahead _ =>
    cases stream <;> simp [work, hahead] <;> omega
  | exit _ hrunning => simp [work, hrunning]
  | @read stream chunk rest _ hpipe hchunk _ =>
    have hpos : 0 < chunk.length := List.length_pos_iff.2 hchunk
    cases stream <;> simp [work, hpipe] <;> omega
  | @close stream hopened _ _ => cases stream <;> simp [work, hopened]
  | wait _ hwaiting => simp [work, hwaiting]

theorem wellFounded_step (room : ℕ) (code : Option Int) :
    WellFounded fun after before => Step room code before after :=
  Subrelation.wf (fun h => work_lt_of_step h) (measure work).wf

end Reading

/-! ### The outcome -/

theorem run_tool {ε : Type} (tools : Launcher) (launch : Launch) (m : Machine) :
    ((Tool.run tools launch : Task ε Outcome).run.run m).1 =
      .ok (.ofBehaviour (tools launch m.tree).1) :=
  rfl

theorem ofStreams_eq_outcome (child : Child) :
    Outcome.ofStreams (bytesOn .output child.writes) (bytesOn .errors child.writes) child.code =
      child.outcome :=
  rfl

/-- **However a tool is read, its outcome is the same.**  Every reading comes to an end, and only
where all is done.  Then each reader has the bytes of its stream, the wait has the exit code, and
the run of the tool has the outcome that the tool's own bytes and exit code tell; and where these
bytes are those of a text, it is that text. -/
theorem run_of_child (room : ℕ) (child : Child) :
    WellFounded (fun after before => Reading.Step room child.code before after)
    ∧ (∀ s, Reading.Reaches room child s → (∀ s', ¬ Reading.Step room child.code s s') →
        s.IsFinished)
    ∧ (∀ s, Reading.Reaches room child s → s.IsFinished →
        (∀ stream, s.kept stream = bytesOn stream child.writes) ∧ s.status = some child.code
        ∧ ∀ (ε : Type) (tools : Launcher) (launch : Launch) (m : Machine),
          (tools launch m.tree).1 = s.behaviour →
            ((Tool.run tools launch : Task ε Outcome).run.run m).1 = .ok child.outcome)
    ∧ (∀ text, child.code = some 0 → bytesOn .output child.writes = Text.encode text →
        child.outcome = .succeeded text)
    ∧ ∀ text, child.code ≠ some 0 → bytesOn .errors child.writes = Text.encode text →
        child.outcome = .exited child.code text := by
  refine ⟨Reading.wellFounded_step room child.code, ?_, ?_, ?_, ?_⟩
  · intro s hreaches hstuck
    exact Reading.isFinished_of_stuck (Reading.accounts_of_reaches hreaches) hstuck
  · intro s hreaches hfinished
    have haccounts := Reading.accounts_of_reaches hreaches
    have hkept := Reading.kept_of_isFinished haccounts hfinished
    have hstatus := Reading.status_of_isFinished haccounts hfinished
    refine ⟨hkept, hstatus, fun ε tools launch m hbehaviour => ?_⟩
    rw [run_tool, hbehaviour, Reading.behaviour, hstatus, ← ofStreams_eq_outcome, ← hkept, ← hkept,
      haccounts.kept_eq, haccounts.kept_eq]
    rfl
  · intro text hcode hbytes
    rw [Child.outcome, if_pos hcode, hbytes, Text.decodeLossy_encode]
  · intro text hcode hbytes
    rw [Child.outcome, if_neg hcode, hbytes, Text.decodeLossy_encode]

end MockServer.Build
