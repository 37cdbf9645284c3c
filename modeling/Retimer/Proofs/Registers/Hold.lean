import Retimer.Proofs.Registers.Plain

/-!
# The hold on the clock recovery

While a channel is retuned its clock recovery is held in reset, and a channel left in that state
carries no traffic. The recipe therefore ends with a step that lets go, and as every step is tried,
that step is tried whatever became of those before it.

To try it is not to send it, though. The step leaves the other bits of the control register as they
are, so it reads the register first, and if this one read fails nothing is written. Nothing else can
get in the way: the steps between the two leave the register alone, so that their failures make no
difference to it. The release goes out exactly if the read before it is answered.

## Main results

* `configure_sections`: what programming comes to, cut at the two steps that matter
* `configure_releases_iff`: when a hold is let go again
* `configure_keeps_hold`: a single fault leaves the channel held
-/

namespace Retimer

open Bench (SimulatedPart Faulty)

variable {σ η : Type}

/-! ## Accesses to one register -/

theorem Stored.accesses {r r' : Register} {value : UInt8} {journal : List (Event η)}
    (h : Stored r value journal) (hne : r ≠ r') : ∀ e ∈ journal, e.accesses r' = false := by
  have haddress : r.address ≠ r'.address := fun h => hne (Register.address_injective h)
  cases h <;> simp [Event.accesses, haddress]

namespace MaskedWrite

variable {m : MaskedWrite} {journal : List (Event η)}

/-- A masked write accesses its own register only. -/
theorem Block.accesses {r : Register} (h : m.Block journal) (hne : m.register ≠ r) :
    ∀ e ∈ journal, e.accesses r = false := by
  have haddress : m.register.address ≠ r.address := fun h => hne (Register.address_injective h)
  cases h with
  | whole _ hstored => exact hstored.accesses hne
  | merged prior _ hstored =>
    exact List.forall_mem_cons.mpr ⟨decide_eq_false haddress, hstored.accesses hne⟩
  | unread fault => simp [Event.accesses, haddress]

theorem accesses_flatten {ms : List MaskedWrite} {blocks : List (List (Event η))} {r : Register}
    (h : List.Forall₂ Block ms blocks) (hms : ∀ m ∈ ms, m.register ≠ r) :
    ∀ e ∈ blocks.flatten, e.accesses r = false := by
  induction h with
  | nil => simp
  | cons hblock _ ih =>
    obtain ⟨hm, hms⟩ := List.forall_mem_cons.mp hms
    rw [List.flatten_cons, List.forall_mem_append]
    exact ⟨hblock.accesses hm, ih hms⟩

/-- Writes to other registers leave a register alone, on the bus and on the part. -/
theorem applyAll_elsewhere [Bus σ] [Plain σ] {ms : List MaskedWrite} {r : Register}
    (hms : ∀ m ∈ ms, m.register ≠ r) (w : σ) :
    let o := (applyAll ms : Action σ η _).run w
    (∀ e ∈ o.journal, e.accesses r = false) ∧
      (Plain.file o.world).get r.address = (Plain.file w).get r.address := by
  intro o
  obtain ⟨blocks, w', hblocks, -, hrun⟩ := @applyAll_run σ η _ ms w
  refine ⟨?_, ?_⟩
  · rw [show o = _ from hrun]
    exact accesses_flatten hblocks hms
  · rw [show Plain.file o.world = _ from applyAll_file ms w]
    refine get_storeAll_of_notMem ?_ _
    intro m hm haddress
    exact hms m (succeeded_subset _ _ hm) (Register.address_injective haddress)

end MaskedWrite

/-! ## The two steps -/

/-- The step that holds the clock recovery in reset. -/
def holdStep : MaskedWrite := ⟨.cdrControl, 0x0C, 0x0C⟩

/-- The step that lets go of it. -/
def releaseStep : MaskedWrite := ⟨.cdrControl, 0x00, 0x0C⟩

/-- A recipe holds the clock recovery once and lets go of it last. -/
theorem recipe_sections (c : Channel) (rate : LineRate) :
    ∃ before between : List MaskedWrite,
      (recipe c rate).toList = (before ++ [holdStep]) ++ (between ++ [releaseStep]) ∧
      (∀ m ∈ before, m.register ≠ .cdrControl) ∧ ∀ m ∈ between, m.register ≠ .cdrControl := by
  let steps := (recipe c rate).toList
  have hbefore : (steps.take 3).all fun m => m.register ≠ .cdrControl := rfl
  have hbetween : ((steps.drop 4).take 8).all fun m => m.register ≠ .cdrControl := rfl
  refine ⟨steps.take 3, (steps.drop 4).take 8, rfl, ?_, ?_⟩
  · exact fun m hm => of_decide_eq_true (List.all_eq_true.mp hbefore m hm)
  · exact fun m hm => of_decide_eq_true (List.all_eq_true.mp hbetween m hm)

/-- What a masked write makes of a byte, if its block says that it went through. -/
def MaskedWrite.mergeIf (m : MaskedWrite) (block : List (Event η)) (prior : UInt8) : UInt8 :=
  if (verdict block).isOk then m.merge prior else prior

variable [Bus σ] [Plain σ]

open Plain (file)

/-- What a programming comes to, cut at the two steps. -/
structure Sections (w : σ) (o : Outcome σ η (Except Failure Unit))
    (before hold between release last : List (Event η)) : Prop where
  /-- The parts make up the whole. -/
  journal : o.journal = before ++ hold ++ (between ++ release) ++ last
  /-- Only the two steps access the clock recovery control. -/
  elsewhere : ∀ e ∈ before ++ between ++ last, e.accesses .cdrControl = false
  /-- The first of them. -/
  held : holdStep.Block hold
  /-- The second. -/
  released : releaseStep.Block release
  /-- A failure in any part is reported. -/
  value : o.value = verdict o.journal
  /-- The register is what the two steps make of it. -/
  register : (file o.world).get Register.cdrControl.address = releaseStep.mergeIf release
    (holdStep.mergeIf hold ((file w).get Register.cdrControl.address))

/-- What a single masked write does to its register. -/
theorem MaskedWrite.applyAll_singleton {m : MaskedWrite} {r : Register} (hr : m.register = r)
    (w : σ) :
    let o := (applyAll [m] : Action σ η _).run w
    m.Block o.journal ∧
      (file o.world).get r.address = m.mergeIf o.journal ((file w).get r.address) := by
  intro o
  obtain ⟨journal, w', hblock, hanswered, hrun⟩ := @apply_run σ η _ m w
  have ho : o = ⟨[verdict journal], w', journal⟩ := by simp [o, applyAll, hrun]
  rw [ho]
  refine ⟨hblock, ?_⟩
  rw [hblock.file_eq hanswered, mergeIf]
  split
  · rw [get_store, hr, if_pos rfl]
  · rfl

/-- Programming has its sections. -/
theorem configure_sections (c : Channel) (rate : LineRate) (w : σ) :
    ∃ before hold between release last : List (Event η),
      Sections w ((configure c rate : Attempt σ η Unit).run.run w)
        before hold between release last := by
  obtain ⟨ms, ns, hrecipe, hms, hns⟩ := recipe_sections c rate
  let first : Outcome σ η _ := (MaskedWrite.applyAll ms).run w
  let second : Outcome σ η _ := (MaskedWrite.applyAll [holdStep]).run first.world
  let third : Outcome σ η _ := (MaskedWrite.applyAll ns).run second.world
  let fourth : Outcome σ η _ := (MaskedWrite.applyAll [releaseStep]).run third.world
  obtain ⟨hbefore, hfirst⟩ := @MaskedWrite.applyAll_elsewhere σ η _ _ ms _ hms w
  obtain ⟨hheld, hsecond⟩ :=
    @MaskedWrite.applyAll_singleton σ η _ _ holdStep .cdrControl rfl first.world
  obtain ⟨hbetween, hthird⟩ := @MaskedWrite.applyAll_elsewhere σ η _ _ ns _ hns second.world
  obtain ⟨hreleased, hfourth⟩ :=
    @MaskedWrite.applyAll_singleton σ η _ _ releaseStep .cdrControl rfl third.world
  have hsteps : (MaskedWrite.applyAll (recipe c rate).toList : Action σ η _).run w =
      ⟨first.value ++ second.value ++ (third.value ++ fourth.value), fourth.world,
        first.journal ++ second.journal ++ (third.journal ++ fourth.journal)⟩ := by
    simp only [hrecipe, MaskedWrite.applyAll_append, first, second, third, fourth]
  obtain ⟨last, hjournal, hlast⟩ := @configure_last σ η _ c rate w
  rw [hsteps] at hjournal
  refine ⟨_, _, _, _, last, hjournal, ?_, hheld, hreleased, configure_value c rate w, ?_⟩
  · simp only [List.forall_mem_append]
    exact ⟨⟨hbefore, hbetween⟩, fun e he => hlast e he _⟩
  · rw [configure_world, hsteps, hfourth, hthird, hsecond, hfirst]

/-! ## Letting go -/

/-- Whatever a masked write sends has its own bits under the mask. -/
theorem MaskedWrite.Block.write_and_mask {m : MaskedWrite} {journal : List (Event η)}
    (h : m.Block journal) {address written : UInt8} {answer : Except BusFault Unit}
    (hmem : .write address written answer ∈ journal) :
    written &&& m.mask = m.value &&& m.mask := by
  cases h with
  | whole _ hstored => rw [(hstored.write_mem hmem).2]
  | merged prior _ hstored =>
    have hrest := (List.mem_cons.mp hmem).resolve_left nofun
    rw [(hstored.write_mem hrest).2, merge_and_mask]
  | unread fault => simp at hmem

/-- A step that writes as it should has read before. -/
theorem MaskedWrite.Block.eq_of_write_mem {m : MaskedWrite} {journal : List (Event η)}
    (h : m.Block journal) (hmask : m.mask ≠ fullMask) {address written : UInt8}
    (hmem : .write address written (.ok ()) ∈ journal) :
    ∃ prior, journal =
      [.read m.register.address (.ok prior), .write address written (.ok ())] := by
  cases h with
  | whole hwhole => exact absurd hwhole hmask
  | merged prior _ hstored =>
    cases hstored with
    | through =>
      obtain ⟨rfl, rfl⟩ : address = m.register.address ∧ written = m.merge prior := by
        simpa using hmem
      exact ⟨prior, rfl⟩
    | refused fault => simp at hmem
  | unread fault => simp at hmem

/-- A step that reads first writes exactly if it is answered. -/
theorem MaskedWrite.Block.writes_iff {m : MaskedWrite} {journal : List (Event η)}
    (h : m.Block journal) (hmask : m.mask ≠ fullMask) :
    (∃ written answer, .write m.register.address written answer ∈ journal) ↔
      ∀ fault, .read m.register.address (.error fault) ∉ journal := by
  cases h with
  | whole hwhole => exact absurd hwhole hmask
  | merged prior _ hstored => cases hstored <;> simp
  | unread fault => simp

/-- A step goes through exactly if its write does. -/
theorem MaskedWrite.Block.isOk_verdict_iff {m : MaskedWrite} {journal : List (Event η)}
    (h : m.Block journal) : (verdict journal).isOk = true ↔
      ∃ written, .write m.register.address written (.ok ()) ∈ journal := by
  rw [isOk_verdict]
  cases h with
  | whole _ hstored => cases hstored <;> simp [Event.failed]
  | merged prior _ hstored => cases hstored <;> simp [Event.failed]
  | unread fault => simp [Event.failed]

namespace Sections

variable {w : σ} {o : Outcome σ η (Except Failure Unit)}
  {before hold between release last : List (Event η)}

/-- An access to the clock recovery control is in none of the other parts. -/
theorem notMem (h : Sections w o before hold between release last) {e : Event η}
    (he : e.accesses .cdrControl = true) : e ∉ before ∧ e ∉ between ∧ e ∉ last := by
  have hnone : e ∉ before ++ between ++ last := by
    intro hmem
    rw [h.elsewhere e hmem] at he
    cases he
  simpa [and_assoc] using hnone

theorem mem_iff (h : Sections w o before hold between release last) {e : Event η}
    (he : e.accesses .cdrControl = true) : e ∈ between ++ release ++ last ↔ e ∈ release := by
  obtain ⟨-, hbetween, hlast⟩ := h.notMem he
  simp [hbetween, hlast]

/-- What comes after a write that holds is the rest of the programming. -/
theorem split (h : Sections w o before hold between release last)
    {earlier later : List (Event η)} {value : UInt8}
    (hjournal : o.journal =
      earlier ++ .write Register.cdrControl.address value (.ok ()) :: later)
    (hheld : value &&& 0x0C = 0x0C) :
    later = between ++ release ++ last ∧ ∃ prior,
      hold = [.read Register.cdrControl.address (.ok prior),
        .write Register.cdrControl.address value (.ok ())] := by
  let sent : Event η := .write Register.cdrControl.address value (.ok ())
  have haccess : sent.accesses .cdrControl = true := by simp [sent, Event.accesses]
  obtain ⟨hbefore, hbetween, hlast⟩ := h.notMem haccess
  -- what the release sends has the bits clear, so it is not the write in question
  have hrelease : sent ∉ release := by
    intro hmem
    have hclear : value &&& 0x0C = 0x00 &&& 0x0C := h.released.write_and_mask hmem
    rw [hheld] at hclear
    exact absurd hclear (by decide)
  have hmem : sent ∈ o.journal := by simp [hjournal, sent]
  rw [h.journal] at hmem
  have hhold : sent ∈ hold := by simpa [hbefore, hbetween, hrelease, hlast] using hmem
  obtain ⟨prior, rfl⟩ := h.held.eq_of_write_mem (by decide) hhold
  have heq : (before ++ [.read Register.cdrControl.address (.ok prior)]) ++
      sent :: (between ++ release ++ last) = earlier ++ sent :: later := by
    rw [← hjournal, h.journal]
    simp [sent, holdStep]
  rw [List.append_cons_inj_of_notMem (by simp [hbefore, sent])
    (by simp [hbetween, hrelease, hlast])] at heq
  exact ⟨heq.2.2.symm, prior, rfl⟩

/-- Once the hold went through, the bits tell whether the release did. -/
theorem left_eq (h : Sections w o before hold between release last)
    (hhold : (verdict hold).isOk = true) :
    (file o.world).get Register.cdrControl.address &&& 0x0C =
      if (verdict release).isOk then 0 else 0x0C := by
  rw [h.register, MaskedWrite.mergeIf, MaskedWrite.mergeIf, if_pos hhold]
  split
  · exact releaseStep.merge_and_mask _
  · exact holdStep.merge_and_mask _

/-- A release that does not go through is reported. -/
theorem value_eq (h : Sections w o before hold between release last)
    (hrelease : (verdict release).isOk = false) : o.value = .error .ioFailure := by
  rw [isOk_verdict, Bool.not_eq_false'] at hrelease
  rw [h.value, h.journal, verdict, if_pos (by simp [hrelease])]

end Sections

/-- **A hold is let go again exactly if the read before the release is answered.**

Take plain registers and accesses that fail in any pattern, and suppose that programming has
written the bits that hold the clock recovery. The journal that shows it has the answers of the bus.
In it a write that clears them comes later unless a later read of their register fails. They are
clear in the end exactly if such a write went through; otherwise both are still set, and the call
reports a failure. -/
theorem configure_releases_iff (c : Channel) (rate : LineRate) (w : σ)
    {earlier later : List (Event η)} {value : UInt8}
    (hjournal : ((configure c rate : Attempt σ η Unit).run.run w).journal =
      earlier ++ .write Register.cdrControl.address value (.ok ()) :: later)
    (hheld : value &&& 0x0C = 0x0C) :
    let o := (configure c rate : Attempt σ η Unit).run.run w
    let left := (file o.world).get Register.cdrControl.address &&& 0x0C
    Answered w o.journal o.world ∧
    ((∃ written answer, .write Register.cdrControl.address written answer ∈ later ∧
        written &&& 0x0C = 0) ↔
      ∀ fault, .read Register.cdrControl.address (.error fault) ∉ later) ∧
    (left = 0 ↔ ∃ written, .write Register.cdrControl.address written (.ok ()) ∈ later) ∧
    (left = 0 ∨ left = 0x0C ∧ o.value = .error .ioFailure) := by
  intro o left
  obtain ⟨before, hold, between, release, last, h⟩ := @configure_sections σ η _ _ c rate w
  obtain ⟨rfl, prior, rfl⟩ := h.split hjournal hheld
  have hread (fault : BusFault) :
      (.read Register.cdrControl.address (.error fault) : Event η) ∈ between ++ release ++ last ↔
        .read Register.cdrControl.address (.error fault) ∈ release :=
    h.mem_iff (by simp [Event.accesses])
  have hwrite (written : UInt8) (answer : Except BusFault Unit) :
      (.write Register.cdrControl.address written answer : Event η) ∈ between ++ release ++ last ↔
        .write Register.cdrControl.address written answer ∈ release :=
    h.mem_iff (by simp [Event.accesses])
  have hleft : left = if (verdict release).isOk then 0 else 0x0C := h.left_eq rfl
  have hsent : (∃ written, .write Register.cdrControl.address written (.ok ()) ∈ release) ↔
      (verdict release).isOk = true := h.released.isOk_verdict_iff.symm
  have hanswered : (∃ written answer,
      .write Register.cdrControl.address written answer ∈ release) ↔
      ∀ fault, .read Register.cdrControl.address (.error fault) ∉ release :=
    h.released.writes_iff (by decide)
  simp only [hread, hwrite, hsent, ← hanswered]
  refine ⟨configure_answered c rate w, ?_, ?_, ?_⟩
  · refine exists_congr fun written => exists_congr fun answer => and_iff_left_of_imp ?_
    exact fun hmem => h.released.write_and_mask hmem
  · rw [hleft]
    cases (verdict release).isOk <;> simp
  · rw [hleft]
    cases hok : (verdict release).isOk with
    | true => exact .inl rfl
    | false => exact .inr ⟨rfl, h.value_eq hok⟩

/-- A part in good health that refuses to be written the rate. -/
def rateRefused : Faulty SimulatedPart where
  part := .blank
  past := []
  pattern past :=
    match past.getLast? with
    | some (.write address _) =>
      if address = Register.rateSelect.address then some .noDevice else none
    | _ => none

/-- There, a step between the two fails, and the hold is let go all the same. -/
theorem configure_releases_rateRefused :
    let o := (configure (Channel.mk 0) .tenG : Attempt (Faulty SimulatedPart) Nat Unit).run.run
      rateRefused
    let left := (file o.world).get Register.cdrControl.address &&& 0x0C
    ∃ earlier later,
      o.journal = earlier ++ .write Register.cdrControl.address 0x0C (.ok ()) :: later ∧
      Answered rateRefused o.journal o.world ∧
      ((∃ written answer, .write Register.cdrControl.address written answer ∈ later ∧
          written &&& 0x0C = 0) ↔
        ∀ fault, .read Register.cdrControl.address (.error fault) ∉ later) ∧
      (left = 0 ↔ ∃ written, .write Register.cdrControl.address written (.ok ()) ∈ later) ∧
      (left = 0 ∨ left = 0x0C ∧ o.value = .error .ioFailure) := by
  intro o left
  have hjournal : o.journal = o.journal.take 6 ++
      .write Register.cdrControl.address 0x0C (.ok ()) :: o.journal.drop 7 := rfl
  exact ⟨_, _, hjournal, configure_releases_iff (Channel.mk 0) .tenG rateRefused hjournal rfl⟩

/-- A part in good health that fails to answer once, at the second read of the clock recovery
control. -/
def deafOnce : Faulty SimulatedPart where
  part := .blank
  past := []
  pattern past :=
    if past.getLast? = some (.read Register.cdrControl.address) ∧
      past.count (.read Register.cdrControl.address) = 2 then some .noDevice else none

/-- **A single fault leaves the channel held.** Every step is tried there and every write goes
through, yet the bits that hold the clock recovery are written once and never cleared. -/
theorem configure_keeps_hold :
    let o := (configure (Channel.mk 0) .tenG : Attempt (Faulty SimulatedPart) Nat Unit).run.run
      deafOnce
    ∃ earlier later,
      o.journal = earlier ++ .write Register.cdrControl.address 0x0C (.ok ()) :: later ∧
      (∀ written answer, .write Register.cdrControl.address written answer ∉ later) ∧
      o.journal.countP Event.failed = 1 ∧ o.value = .error .ioFailure ∧
      (file o.world).get Register.cdrControl.address = 0x0C := by
  intro o
  refine ⟨o.journal.take 6, o.journal.drop 7, rfl, ?_, rfl, rfl, rfl⟩
  intro written answer hmem
  have hall : (o.journal.drop 7).all fun e => !(e.isWrite && e.accesses .cdrControl) := rfl
  have hnot := List.all_eq_true.mp hall _ hmem
  simp [Event.isWrite, Event.accesses] at hnot

end Retimer
