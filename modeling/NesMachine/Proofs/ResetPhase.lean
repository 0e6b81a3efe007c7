import NesMachine.Proofs.Nrom
/-!
# Sessions and the reset phase

A program drives a console by a sequence of calls (`Console.Op`): inserting a cartridge, from
bytes or from a file, resetting, executing one instruction, running, running a frame, reading
an instruction's bytes, and writing to the bus or clearing it directly. `Console.performAll` plays such a
session; a refused call keeps the console it was made on.

The processor's phase is moved by two calls only. A reset, alone or as the start of a run, makes
it running; an insertion that succeeds puts it back to waiting for a reset; nothing else touches
it, an instruction that fails included. So along every session from construction the processor
runs exactly when a reset has completed since the last successful insertion
(`Console.phase_performAll`), and an instruction, alone or inside a frame, is refused with
`NotReset` exactly when it does not.

A reset cannot fail: the reset vector lies in the cartridge window, where a word read is always
accepted. It clears RAM and the latches, keeps the cartridge window and graphics memory, and
starts the processor from the vector, so what it leaves depends on those two alone
(`Console.reset_state`).
-/

namespace NesMachine

/-! ## The phase along a step -/

/-- No step changes the phase, whether it succeeds or fails. -/
theorem Machine.execute_phase (m : Machine) : m.execute.1.cpu.phase = m.cpu.phase := by
  obtain ⟨cpu, bus⟩ := m
  cases phase : cpu.phase with
  | reset => rw [Machine.execute_of_reset phase]; exact phase
  | running =>
    rcases Machine.execute_cases bus phase with
      ⟨g, -, step⟩ | ⟨-, ⟨-, step⟩ | ⟨op, -, ⟨e, -, step⟩ | ⟨eff, -, step⟩⟩⟩
    · rw [step]; exact phase
    · rw [step]; exact phase
    · rw [step]; exact phase
    · -- a step that succeeds stays within its footprint, which keeps the phase
      have ok : (Machine.execute ⟨cpu, bus⟩).2 = .ok (lookup (bus.byteAt cpu.pc.toNat)).cycles := by
        rw [step]
      exact (Machine.execute_frames phase ok).cpu.phase.trans phase

/-- A step is refused with `NotReset` exactly when the processor is not running; a running
processor is refused only by the bus. -/
theorem Machine.execute_notReset_iff (m : Machine) :
    m.execute.2 = .error .notReset ↔ m.cpu.phase ≠ .running := by
  obtain ⟨cpu, bus⟩ := m
  cases phase : cpu.phase with
  | reset => simp [Machine.execute_of_reset phase]
  | running =>
    simp only [ne_eq, not_true_eq_false, iff_false]
    rcases Machine.execute_cases bus phase with
      ⟨g, -, step⟩ | ⟨-, ⟨-, step⟩ | ⟨op, -, ⟨e, -, step⟩ | ⟨eff, -, step⟩⟩⟩ <;> simp [step]

namespace Console

theorem execute_phase (c : Console) : c.execute.1.machine.cpu.phase = c.machine.cpu.phase :=
  Machine.execute_phase c.machine

theorem execute_notReset_iff (c : Console) :
    c.execute.2 = .error .notReset ↔ c.machine.cpu.phase ≠ .running :=
  Machine.execute_notReset_iff c.machine

/-! ## The phase along runs and frames -/

/-- A run of instructions keeps the phase, however it ends. -/
theorem runFrom_phase (c : Console) (n total : Nat) :
    (c.runFrom n total).1.machine.cpu.phase = c.machine.cpu.phase := by
  fun_induction Console.runFrom c n total with
  | case1 c total => rfl
  | case2 c n total c' cycles step ih =>
    rw [ih, ← c.execute_phase, step]
  | case3 c n total c' e step =>
    rw [← c.execute_phase, step]

/-- A run starts with a reset, so it leaves the processor running. -/
theorem run_phase (c : Console) (n : Nat) : (c.run n).1.machine.cpu.phase = .running :=
  c.reset.runFrom_phase n 0

/-- The frame loop keeps the phase, however it ends. -/
theorem frameLoop_phase (c : Console) (fuel : Nat) (left : Int) (consumed : Nat) :
    (c.frameLoop fuel left consumed).1.machine.cpu.phase = c.machine.cpu.phase := by
  fun_induction Console.frameLoop c fuel left consumed with
  | case1 c left consumed => rfl
  | case2 c fuel left consumed positive c' cycles step ih =>
    rw [ih, ← c.execute_phase, step]
  | case3 c fuel left consumed positive c' e step =>
    rw [← c.execute_phase, step]
  | case4 c fuel left consumed spent => rfl

/-- Each step of the frame loop runs on the phase the loop started with, so the loop is refused
with `NotReset` exactly when the processor is not running and the loop takes a first step: it
has fuel and cycles left. -/
theorem frameLoop_notReset_iff (c : Console) (fuel : Nat) (left : Int) (consumed : Nat) :
    (c.frameLoop fuel left consumed).2 = .error .notReset ↔
      c.machine.cpu.phase ≠ .running ∧ 0 < fuel ∧ 0 < left := by
  fun_induction Console.frameLoop c fuel left consumed with
  | case1 c left consumed => simp
  | case2 c fuel left consumed positive c' cycles step ih =>
    -- the step succeeded, so the processor is running, and stays so for the rest of the loop
    have running : c.machine.cpu.phase = .running := by
      by_contra stopped
      have refused := (c.execute_notReset_iff).2 stopped
      rw [step] at refused
      cases refused
    have kept : c'.machine.cpu.phase = .running := by rw [← running, ← c.execute_phase, step]
    simp [ih, kept, running]
  | case3 c fuel left consumed positive c' e step =>
    have refused := c.execute_notReset_iff
    rw [step] at refused
    simp [refused, positive]
  | case4 c fuel left consumed spent => simp [spent]

/-- A frame is refused with `NotReset` exactly when the processor is not running and the frame
has a budget, and it keeps the phase. -/
theorem nextFrame_notReset_iff (c : Console) :
    (c.nextFrame.2 = .error .notReset ↔ c.machine.cpu.phase ≠ .running ∧ 0 < c.cyclesPerFrame) ∧
      c.nextFrame.1.machine.cpu.phase = c.machine.cpu.phase := by
  refine ⟨?_, c.frameLoop_phase _ _ _⟩
  rw [nextFrame, frameLoop_notReset_iff]
  unfold frameBudgetLimit
  constructor
  · rintro ⟨stopped, budget, -⟩
    exact ⟨stopped, budget⟩
  · rintro ⟨stopped, budget⟩
    exact ⟨stopped, budget, by omega⟩

/-! ## Sessions -/

/-- One call a program makes on a console. -/
inductive Op where
  /-- Insert a cartridge image. -/
  | insert (image : ByteArray)
  /-- Insert a cartridge from a file's contents, or its read failure. -/
  | insertFile (contents : Except ReadFailure ByteArray)
  | reset
  | execute
  /-- Reset, then run up to `n` instructions. -/
  | run (n : Nat)
  | nextFrame
  /-- Read the bytes of the instruction at an address. -/
  | instructionAt (addr : UInt16)
  /-- Write bytes to the bus directly. -/
  | write (addr : UInt16) (data : List UInt8)
  /-- Upload bytes to graphics memory directly. -/
  | writeGraphics (offset : Nat) (data : List UInt8)
  /-- Clear RAM and the latches through the bus directly, leaving the processor alone. -/
  | resetBus

/-- The console a call leaves: a refused insertion or direct write keeps the console as it was,
an instruction that fails keeps what it did before failing. -/
def perform (c : Console) : Op → Console
  | .insert image =>
    match c.insert image with
    | .ok (c', _) => c'
    | .error _ => c
  | .insertFile contents =>
    match c.insertFile contents with
    | .ok (c', _) => c'
    | .error _ => c
  | .reset => c.reset
  | .execute => c.execute.1
  | .run n => (c.run n).1
  | .nextFrame => c.nextFrame.1
  | .instructionAt _ => c
  | .write addr data =>
    match c.machine.bus.write addr data with
    | .ok bus => { c with machine := { c.machine with bus := bus } }
    | .error _ => c
  | .writeGraphics offset data =>
    match c.machine.bus.writeGraphics offset data with
    | .ok bus => { c with machine := { c.machine with bus := bus } }
    | .error _ => c
  | .resetBus => { c with machine := { c.machine with bus := c.machine.bus.reset } }

/-- The console a session leaves. -/
def performAll (c : Console) (ops : List Op) : Console :=
  ops.foldl perform c

theorem performAll_append_singleton (c : Console) (ops : List Op) (op : Op) :
    c.performAll (ops ++ [op]) = (c.performAll ops).perform op := by
  simp [performAll, List.foldl_append]

/-- A call completes a reset: `reset` itself, or `run`, which starts with one. -/
def Op.Resets : Op → Prop
  | .reset | .run _ => True
  | _ => False

/-- A call made on `c` is an insertion that succeeds. -/
def Inserts (c : Console) : Op → Prop
  | .insert image => ∃ r, c.insert image = .ok r
  | .insertFile contents => ∃ r, c.insertFile contents = .ok r
  | _ => False

/-- The phase after one call: running after a reset, waiting after a successful insertion, and
otherwise as it was. -/
theorem phase_perform (c : Console) (op : Op) :
    (op.Resets → (c.perform op).machine.cpu.phase = .running) ∧
    (c.Inserts op → (c.perform op).machine.cpu.phase = .reset) ∧
    (¬ op.Resets → ¬ c.Inserts op → (c.perform op).machine.cpu.phase = c.machine.cpu.phase) := by
  refine ⟨fun resets => ?_, fun inserts => ?_, fun notReset notInserted => ?_⟩
  · cases op <;> simp only [Op.Resets] at resets
    · rfl
    · exact c.run_phase _
  · cases op <;> simp only [Inserts] at inserts
    all_goals
      obtain ⟨⟨c', cart⟩, inserted⟩ := inserts
      simp only [perform, inserted]
    · obtain ⟨⟨bus, cart'⟩, -, done⟩ := Except.bind_eq_ok inserted
      cases done; rfl
    · obtain ⟨⟨bus, cart'⟩, -, done⟩ := Except.bind_eq_ok inserted
      cases done; rfl
  · cases op with
    | insert image =>
      cases inserted : c.insert image with
      | ok r => exact absurd ⟨r, inserted⟩ notInserted
      | error e => simp only [perform, inserted]
    | insertFile contents =>
      cases inserted : c.insertFile contents with
      | ok r => exact absurd ⟨r, inserted⟩ notInserted
      | error e => simp only [perform, inserted]
    | reset => exact absurd trivial notReset
    | run n => exact absurd trivial notReset
    | execute => exact c.execute_phase
    | nextFrame => exact c.nextFrame_notReset_iff.2
    | instructionAt addr => rfl
    | write addr data => simp only [perform]; split <;> rfl
    | writeGraphics offset data => simp only [perform]; split <;> rfl
    | resetBus => rfl

/-- In the session `ops` from `c`, a reset completes after the last insertion that succeeds:
`ops` has a reset `r` such that no call after it is a successful insertion, each judged on the
console it is made on. -/
def ResetSinceInsertion (c : Console) (ops : List Op) : Prop :=
  ∃ pre r post, ops = pre ++ r :: post ∧ r.Resets ∧
    ∀ mid q rest, post = mid ++ q :: rest → ¬ (c.performAll (pre ++ r :: mid)).Inserts q

/-- A list that ends in `a`, cut at one of its members: at `a` itself, or before it. -/
theorem List.append_singleton_eq_append_cons {α : Type} {xs ys zs : List α} {a b : α} :
    xs ++ [a] = ys ++ b :: zs ↔
      (zs = [] ∧ xs = ys ∧ a = b) ∨ ∃ zs', zs = zs' ++ [a] ∧ xs = ys ++ b :: zs' := by
  rcases List.eq_nil_or_concat zs with rfl | ⟨zs', z, rfl⟩
  · simp [List.append_singleton_inj]
  · rw [List.concat_eq_append, show ys ++ b :: (zs' ++ [z]) = (ys ++ b :: zs') ++ [z] by simp,
      List.append_singleton_inj]
    constructor
    · rintro ⟨rfl, rfl⟩
      exact .inr ⟨zs', rfl, rfl⟩
    · rintro (⟨nil, -⟩ | ⟨w, same, rfl⟩)
      · simp at nil
      · obtain ⟨rfl, rfl⟩ := List.append_singleton_inj.1 same
        exact ⟨rfl, rfl⟩

/-- The last call of a session either completes a reset, or keeps one that came before it
unless it is a successful insertion. -/
theorem resetSinceInsertion_append_singleton (c : Console) (ops : List Op) (op : Op) :
    c.ResetSinceInsertion (ops ++ [op]) ↔
      op.Resets ∨ (c.ResetSinceInsertion ops ∧ ¬ (c.performAll ops).Inserts op) := by
  constructor
  · rintro ⟨pre, r, post, split, resets, after⟩
    rcases List.append_singleton_eq_append_cons.1 split with ⟨rfl, rfl, rfl⟩ | ⟨post', rfl, rfl⟩
    · exact .inl resets
    · -- the reset came before `op`, which is then one of the calls after it
      refine .inr ⟨⟨pre, r, post', rfl, resets, fun mid q rest cut => ?_⟩, after post' op [] rfl⟩
      exact after mid q (rest ++ [op]) (by rw [cut]; simp)
  · rintro (resets | ⟨⟨pre, r, post, rfl, resets, after⟩, notInserted⟩)
    · refine ⟨ops, op, [], rfl, resets, fun mid q rest cut => ?_⟩
      simp at cut
    · refine ⟨pre, r, post ++ [op], by simp, resets, fun mid q rest cut => ?_⟩
      rcases List.append_singleton_eq_append_cons.1 cut with ⟨rfl, rfl, rfl⟩ | ⟨rest', rfl, rfl⟩
      · exact notInserted
      · exact after mid q rest' rfl

/-- From a console waiting for a reset, a session leaves the processor running exactly when a
reset completes after the last successful insertion. -/
theorem phase_performAll {c : Console} (waiting : c.machine.cpu.phase = .reset) (ops : List Op) :
    (c.performAll ops).machine.cpu.phase = .running ↔ c.ResetSinceInsertion ops := by
  -- the session is played call by call, and the last call decides
  induction ops using List.reverseRecOn with
  | nil =>
    simp only [performAll, List.foldl_nil, waiting, reduceCtorEq, false_iff]
    rintro ⟨pre, r, post, split, -⟩
    simp at split
  | append_singleton ops op ih =>
    rw [performAll_append_singleton, resetSinceInsertion_append_singleton, ← ih]
    obtain ⟨afterReset, afterInsert, otherwise⟩ := (c.performAll ops).phase_perform op
    by_cases resets : op.Resets
    · simp [resets, afterReset resets]
    by_cases inserts : (c.performAll ops).Inserts op
    · simp [resets, inserts, afterInsert inserts]
    · simp [resets, inserts, otherwise resets inserts]

/-! ## The reset -/

/-- A reset clears RAM and the latches, keeps the cartridge window and graphics memory, and
starts the processor with A, X, Y and the status byte zero, the stack pointer at `$FF`, running,
at the little-endian word the cartridge window holds at `$FFFC`: a word read there is accepted
whatever the bus holds. -/
theorem reset_state (c : Console) :
    c.machine.bus.reset.readWord resetVector = .ok c.reset.machine.cpu.pc ∧
    c.reset.machine.bus.ram = Vector.replicate _ 0 ∧
    c.reset.machine.bus.ppuLatches = Vector.replicate _ 0 ∧
    c.reset.machine.bus.apuLatches = Vector.replicate _ 0 ∧
    c.reset.machine.bus.cartridge = c.machine.bus.cartridge ∧
    c.reset.machine.bus.graphics = c.machine.bus.graphics ∧
    c.reset.machine.cpu.a = 0 ∧ c.reset.machine.cpu.x = 0 ∧ c.reset.machine.cpu.y = 0 ∧
    c.reset.machine.cpu.sp = 0xFF ∧ c.reset.machine.cpu.status.bits = 0 ∧
    c.reset.machine.cpu.phase = .running ∧
    c.reset.machine.cpu.pc.toNat =
      (c.machine.bus.cartridge[0xFFFC - 0x4020]).toNat + 256 * (c.machine.bus.cartridge[0xFFFD - 0x4020]).toNat := by
  refine ⟨c.machine.bus.reset.readWord_vector (by decide) (by decide), rfl, rfl, rfl, rfl, rfl, rfl,
    rfl, rfl, rfl, rfl, rfl, ?_⟩
  -- the vector's two bytes lie in the cartridge window, which the reset keeps
  have low : c.machine.bus.reset.byteAt 0xFFFC = c.machine.bus.cartridge[0xFFFC - 0x4020] := rfl
  have high : c.machine.bus.reset.byteAt 0xFFFD = c.machine.bus.cartridge[0xFFFD - 0x4020] := rfl
  show (Cpu.reset c.machine.bus.reset).pc.toNat = _
  rw [Cpu.reset, Cpu.afterReset, Bus.vectorAt_eq_wordOf, wordOf_toNat]
  rw [show resetVector.toNat = 0xFFFC from rfl, low, high]

/-- A second reset changes nothing. -/
theorem reset_reset (c : Console) : c.reset.reset = c.reset := rfl

/-- What a reset leaves depends on the cartridge window and graphics memory alone. -/
theorem reset_machine_eq {c₁ c₂ : Console} (cartridge : c₁.machine.bus.cartridge = c₂.machine.bus.cartridge)
    (graphics : c₁.machine.bus.graphics = c₂.machine.bus.graphics) :
    c₁.reset.machine = c₂.reset.machine := by
  have cleared : c₁.machine.bus.reset = c₂.machine.bus.reset := by
    simp only [Bus.reset, cartridge, graphics]
  simp only [Console.reset, cleared]

/-- The reset protocol of a console. Along every session from construction, the processor is
running exactly when a reset, alone or as the start of a run, has completed since the last
successful insertion. An instruction is refused with `NotReset` exactly when the processor is not
running, and none changes the phase, so a frame is refused so exactly when it is not running and
has a budget; a refused insertion leaves the console as it was. A reset cannot fail: it clears
RAM and the latches, keeps the cartridge window and graphics memory, and starts the processor at
the reset vector with A, X, Y and the status zero and the stack pointer at `$FF`; so a second
reset changes nothing, and two consoles whose cartridge windows and graphics memory agree are in
the same state after it, whatever else they held. -/
theorem reset_protocol :
    (∀ (cyclesPerFrame : Nat) (ops : List Op),
      ((withCyclesPerFrame cyclesPerFrame).performAll ops).machine.cpu.phase = .running ↔
        (withCyclesPerFrame cyclesPerFrame).ResetSinceInsertion ops) ∧
    (∀ c : Console, (c.execute.2 = .error .notReset ↔ c.machine.cpu.phase ≠ .running) ∧
      c.execute.1.machine.cpu.phase = c.machine.cpu.phase) ∧
    (∀ c : Console,
      (c.nextFrame.2 = .error .notReset ↔ c.machine.cpu.phase ≠ .running ∧ 0 < c.cyclesPerFrame) ∧
        c.nextFrame.1.machine.cpu.phase = c.machine.cpu.phase) ∧
    (∀ (c : Console) image e, c.insert image = .error e → c.perform (.insert image) = c) ∧
    (∀ (c : Console) contents e, c.insertFile contents = .error e →
      c.perform (.insertFile contents) = c) ∧
    (∀ c : Console,
      c.machine.bus.reset.readWord resetVector = .ok c.reset.machine.cpu.pc ∧
      c.reset.machine.bus.ram = Vector.replicate _ 0 ∧
      c.reset.machine.bus.ppuLatches = Vector.replicate _ 0 ∧
      c.reset.machine.bus.apuLatches = Vector.replicate _ 0 ∧
      c.reset.machine.bus.cartridge = c.machine.bus.cartridge ∧
      c.reset.machine.bus.graphics = c.machine.bus.graphics ∧
      c.reset.machine.cpu.a = 0 ∧ c.reset.machine.cpu.x = 0 ∧ c.reset.machine.cpu.y = 0 ∧
      c.reset.machine.cpu.sp = 0xFF ∧ c.reset.machine.cpu.status.bits = 0 ∧
      c.reset.machine.cpu.phase = .running ∧
      c.reset.machine.cpu.pc.toNat = (c.machine.bus.cartridge[0xFFFC - 0x4020]).toNat +
        256 * (c.machine.bus.cartridge[0xFFFD - 0x4020]).toNat) ∧
    (∀ c : Console, c.reset.reset = c.reset) ∧
    (∀ c₁ c₂ : Console, c₁.machine.bus.cartridge = c₂.machine.bus.cartridge →
      c₁.machine.bus.graphics = c₂.machine.bus.graphics → c₁.reset.machine = c₂.reset.machine) := by
  refine ⟨fun cyclesPerFrame => phase_performAll rfl,
    fun c => ⟨c.execute_notReset_iff, c.execute_phase⟩, nextFrame_notReset_iff,
    fun c image e refused => ?_, fun c contents e refused => ?_, reset_state, reset_reset,
    fun _ _ => reset_machine_eq⟩
  · simp only [perform, refused]
  · simp only [perform, refused]

end Console

end NesMachine
