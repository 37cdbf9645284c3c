import Retimer.Bench.TallyFactory
import Retimer.Proofs.Provider.Coherence
import Retimer.Proofs.Provider.ModeRequest
import Retimer.Proofs.Registers.Banks

/-!
# What a mode request may touch

A mode request is about one endpoint. That it leaves the provider alone is plain, whether it
succeeds or fails. What it does to the part is another matter, since programming does not stop at a
failure: if it is the selection of the channel that fails, the writes that follow go to the
registers of whichever channel was selected before.

So the registers of other channels are safe with one exception, and both halves of that are proved
here on a part with banks and faults in any pattern. The exception is a real one, and a part whose
select register refuses to be written shows it.

## Main results

* `Provider.modeRequest_local`: a mode request changes no other channel unless the selection failed
* `Provider.modeRequest_reaches_neighbour`: if it failed, it may
-/

namespace Retimer

open Bench (RegisterFile Contents BankedPart Faulty Board TallyFactory)

variable {φ η : Type} [Factory φ η]

namespace Provider

/-- **A mode request stays local to its channel, as far as the selection of it goes through.** On a
part with banks, whatever it holds and whichever accesses fail, a request to change the mode of one
channel leaves the provider as it was. It leaves the registers of every other channel as they were,
unless the channel select could not be written in it. Then it may have changed those of the channel
that was selected before, and of no other. -/
theorem modeRequest_local (variant : Variant) (ops : List Operation)
    (w₀ w : Board (Faulty BankedPart) φ) {op : Operation} {args : List UInt32} {c d : Channel}
    (hop : op.modeArgs? = some args) (hargs : Channel.ofArgs args = .ok c)
    (hselected :
      w.bus.part.contents.shared.get Register.channelSelect.address = d.selectMask) :
    let p := ((serve variant ops).run w₀).value.2
    let o := (p.perform op).run w
    o.value.2 = p ∧ ∀ other, other ≠ c →
      o.world.bus.part.contents.bank other = w.bus.part.contents.bank other ∨
        other = d ∧
          ∃ fault, .write Register.channelSelect.address c.selectMask (.error fault) ∈
            o.journal := by
  intro p o
  have hp : p.Coherent := coherent_serve variant ops w₀
  have hd : (Banked.contents w).selected? = some d := Contents.selected?_eq_some_iff.mpr hselected
  have hrequested : Requested p op args w o := modeRequest_run hop p w
  generalize o = o at hrequested ⊢
  cases hrequested with
  | unresolved h => exact ⟨rfl, fun _ _ => .inl rfl⟩
  | refused h hrate => exact ⟨rfl, fun _ _ => .inl rfl⟩
  | @programmed e rate o h hrate ho =>
    refine ⟨rfl, ?_⟩
    intro other hne
    cases h with
    | @found c' _ hargs' he =>
      obtain rfl : c' = c := Except.ok.inj (hargs'.symm.trans hargs)
      obtain rfl : e.channel = c' := hp.keyed c' e he
      subst ho
      exact configure_bank_eq e.channel rate hd hne

/-- A part in good health with the first channel selected, whose select register refuses to be
written. -/
def stuckSelect : Board (Faulty BankedPart) TallyFactory where
  bus :=
    { part :=
        { contents :=
            { shared := RegisterFile.blank.setAll [(Register.deviceId.address, knownDeviceId),
                (Register.version.address, 0x03), (Register.channelConfigId.address, 0xFC),
                (Register.channelVersion.address, 0x21),
                (Register.channelSelect.address, (Channel.mk 0).selectMask)]
              bank := fun _ => .blank }
          stray := fun _ contents => (0, contents) }
      past := []
      pattern := fun past =>
        match past.getLast? with
        | some (.write address _) =>
          if address = Register.channelSelect.address then some .noDevice else none
        | _ => none }
  factory := .blank none

/-- There, a request for the second channel. -/
theorem modeRequest_local_stuckSelect :
    let p := ((serve .ds250df810 [.probe]).run stuckSelect).value.2
    let o := (p.perform (.setMode [1] .ethernet .twentyFiveGBaseR)).run stuckSelect
    o.value.2 = p ∧ ∀ other, other ≠ Channel.mk 1 →
      o.world.bus.part.contents.bank other = stuckSelect.bus.part.contents.bank other ∨
        other = Channel.mk 0 ∧ ∃ fault, .write Register.channelSelect.address
          (Channel.mk 1).selectMask (.error fault) ∈ o.journal :=
  modeRequest_local .ds250df810 [.probe] stuckSelect stuckSelect rfl rfl rfl

/-- **The exception is real.** After a probe, with the first channel selected, a request for the
second one fails, and the first has got its rate. -/
theorem modeRequest_reaches_neighbour :
    let probed := (serve .ds250df810 [.probe]).run stuckSelect
    let o := (probed.value.2.perform (.setMode [1] .ethernet .twentyFiveGBaseR)).run probed.world
    probed.world.bus.part.contents.selected? = some (Channel.mk 0) ∧
      (probed.value.2.endpoint? (Channel.mk 1)).isSome ∧
      o.value.1 = .done (.error .ioFailure) ∧
      (probed.world.bus.part.contents.bank (Channel.mk 0)).get Register.rateSelect.address = 0x00 ∧
      (o.world.bus.part.contents.bank (Channel.mk 0)).get Register.rateSelect.address = 0x50 := by
  exact ⟨by decide +kernel, by decide +kernel, rfl, by decide +kernel, by decide +kernel⟩

end Provider

end Retimer
