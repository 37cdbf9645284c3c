import Retimer.Failure

/-!
# Modes and line rates

The framework above asks for a lane's mode as a pair: a `PhyMode`, and for Ethernet an
`InterfaceMode` beside it. It may do so by name or by number, and it numbers far more modes than a
retimer can serve. Only two pairs name a rate at which a recipe exists.

## Main results

* `PhyMode.ofCode?_eq_some_iff`, `InterfaceMode.ofCode?_eq_some_iff`: a number names at most one
  mode, the one it is the code of
* `LineRate.forMode_eq_ok_iff`: the pairs that have a rate
-/

namespace Retimer

/-! ## Modes of the physical layer -/

/-- What kind of link a lane is asked to be, in the framework's order. -/
inductive PhyMode
  | invalid
  | usbHost
  | usbHostLs
  | usbHostFs
  | usbHostHs
  | usbHostSs
  | usbDevice
  | usbDeviceLs
  | usbDeviceFs
  | usbDeviceHs
  | usbDeviceSs
  | usbOtg
  | ufsHsA
  | ufsHsB
  | pcie
  | ethernet
  | mipiDphy
  | sata
  | lvds
  | dp
deriving DecidableEq

namespace PhyMode

/-- Every mode, in the framework's order. -/
def all : List PhyMode :=
  [invalid, usbHost, usbHostLs, usbHostFs, usbHostHs, usbHostSs, usbDevice, usbDeviceLs,
    usbDeviceFs, usbDeviceHs, usbDeviceSs, usbOtg, ufsHsA, ufsHsB, pcie, ethernet, mipiDphy, sata,
    lvds, dp]

/-- The framework's number for a mode. -/
def code : PhyMode → Nat
  | invalid => 0
  | usbHost => 1
  | usbHostLs => 2
  | usbHostFs => 3
  | usbHostHs => 4
  | usbHostSs => 5
  | usbDevice => 6
  | usbDeviceLs => 7
  | usbDeviceFs => 8
  | usbDeviceHs => 9
  | usbDeviceSs => 10
  | usbOtg => 11
  | ufsHsA => 12
  | ufsHsB => 13
  | pcie => 14
  | ethernet => 15
  | mipiDphy => 16
  | sata => 17
  | lvds => 18
  | dp => 19

/-- The mode with a given number, if there is one. -/
def ofCode? (n : Nat) : Option PhyMode := all.find? (·.code = n)

/-- A number names a mode exactly when it is that mode's code. -/
theorem ofCode?_eq_some_iff {n : Nat} {m : PhyMode} : ofCode? n = some m ↔ m.code = n := by
  constructor
  · intro h
    simpa using List.find?_some h
  · rintro rfl
    cases m <;> rfl

end PhyMode

/-! ## Ethernet interfaces -/

/-- How an Ethernet lane talks to its neighbour, in the framework's order. -/
inductive InterfaceMode
  | na
  | internal
  | mii
  | gmii
  | sgmii
  | tbi
  | revMii
  | rmii
  | revRmii
  | rgmii
  | rgmiiId
  | rgmiiRxid
  | rgmiiTxid
  | rtbi
  | smii
  | xgmii
  | xlgmii
  | moca
  | psgmii
  | qsgmii
  | trgmii
  | oneHundredBaseX
  | oneThousandBaseX
  | twoThousandFiveHundredBaseX
  | fiveGBaseR
  | rxaui
  | xaui
  | tenGBaseR
  | twentyFiveGBaseR
  | usxgmii
deriving DecidableEq

namespace InterfaceMode

/-- Every interface, in the framework's order. -/
def all : List InterfaceMode :=
  [na, internal, mii, gmii, sgmii, tbi, revMii, rmii, revRmii, rgmii, rgmiiId, rgmiiRxid,
    rgmiiTxid, rtbi, smii, xgmii, xlgmii, moca, psgmii, qsgmii, trgmii, oneHundredBaseX,
    oneThousandBaseX, twoThousandFiveHundredBaseX, fiveGBaseR, rxaui, xaui, tenGBaseR,
    twentyFiveGBaseR, usxgmii]

/-- The framework's number for an interface. -/
def code : InterfaceMode → Nat
  | na => 0
  | internal => 1
  | mii => 2
  | gmii => 3
  | sgmii => 4
  | tbi => 5
  | revMii => 6
  | rmii => 7
  | revRmii => 8
  | rgmii => 9
  | rgmiiId => 10
  | rgmiiRxid => 11
  | rgmiiTxid => 12
  | rtbi => 13
  | smii => 14
  | xgmii => 15
  | xlgmii => 16
  | moca => 17
  | psgmii => 18
  | qsgmii => 19
  | trgmii => 20
  | oneHundredBaseX => 21
  | oneThousandBaseX => 22
  | twoThousandFiveHundredBaseX => 23
  | fiveGBaseR => 24
  | rxaui => 25
  | xaui => 26
  | tenGBaseR => 27
  | twentyFiveGBaseR => 28
  | usxgmii => 29

/-- The interface with a given number, if there is one. -/
def ofCode? (n : Nat) : Option InterfaceMode := all.find? (·.code = n)

/-- A number names an interface exactly when it is that interface's code. -/
theorem ofCode?_eq_some_iff {n : Nat} {m : InterfaceMode} : ofCode? n = some m ↔ m.code = n := by
  constructor
  · intro h
    simpa using List.find?_some h
  · rintro rfl
    cases m <;> rfl

end InterfaceMode

/-! ## Line rates -/

/-- The rates at which a lane can be programmed. -/
inductive LineRate
  /-- 10.3125 Gbps. -/
  | tenG
  /-- 25.78125 Gbps. -/
  | twentyFiveG
deriving DecidableEq

namespace LineRate

/-- The rate that serves a requested mode. Only Ethernet over one of two interfaces has one. -/
def forMode : PhyMode → InterfaceMode → Except Failure LineRate
  | .ethernet, .tenGBaseR => .ok tenG
  | .ethernet, .twentyFiveGBaseR => .ok twentyFiveG
  | _, _ => .error .unsupportedMode

/-- The pairs that have a rate, and which rate it is. -/
theorem forMode_eq_ok_iff {mode : PhyMode} {submode : InterfaceMode} {rate : LineRate} :
    forMode mode submode = .ok rate ↔
      mode = .ethernet ∧
        (submode = .tenGBaseR ∧ rate = tenG ∨
          submode = .twentyFiveGBaseR ∧ rate = twentyFiveG) := by
  unfold forMode
  split <;> simp_all [eq_comm]

end LineRate

end Retimer
