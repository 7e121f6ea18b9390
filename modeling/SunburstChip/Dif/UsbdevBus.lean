import SunburstChip.Dif.UsbdevRegisters

namespace SunburstChip
namespace Usbdev

open Mmio

/-!
# SETUP packets cancel

The controller of `Hardware` leaves an endpoint alone while packets are
received.  That is what drivers rely on which use an endpoint in one direction.
On a control endpoint the host may start anew at any moment, and a SETUP packet
then cancels the packet that the endpoint has ready: the ready bit is cleared,
and the pending bit is set instead, which stays until the driver clears it.
-/

/-- A CONFIGIN register after a SETUP packet for its endpoint. -/
def ConfigIn.afterSetup (configIn : ConfigIn) : ConfigIn :=
  { configIn with sending := false, pend := configIn.rdy || configIn.pend, rdy := false }

/-- A step of the controller, where a SETUP packet cancels what is ready. -/
inductive Bus : Controller -> Controller -> Prop where
  /-- A SETUP packet is received into the buffer at the head of the Available SETUP FIFO. -/
  | receiveSetup {usbdev : Controller} {buffer : BitVec 5} {rest : List (BitVec 5)}
      (ep : BitVec 4) (inside : ep.toNat < numEndpoints) (size : BitVec 7)
      (packet : Nat -> BitVec 32) (available : usbdev.avSetup = buffer :: rest)
      (room : usbdev.rxFifo.length < rxFifoDepth) :
      Bus usbdev { usbdev with
        avSetup := rest
        rxFifo := usbdev.rxFifo ++ [⟨ep, true, size, buffer⟩]
        memory := storePacket usbdev.memory buffer packet
        configIn := Function.update usbdev.configIn ep.toNat
          (usbdev.configIn ep.toNat).afterSetup }
  /-- Any other step: one that leaves the Available SETUP FIFO as it is. -/
  | other {usbdev usbdev' : Controller} (move : Hardware usbdev usbdev')
      (notSetup : usbdev'.avSetup = usbdev.avSetup) : Bus usbdev usbdev'

variable {usbdev usbdev' : Controller}

theorem Bus.avSetup_le (move : Bus usbdev usbdev') :
    usbdev'.avSetup.length <= usbdev.avSetup.length := by
  cases move with
  | receiveSetup ep inside size packet available room => simp [available]
  | other move notSetup => exact move.avSetup_le

theorem Bus.avOut_le (move : Bus usbdev usbdev') :
    usbdev'.avOut.length <= usbdev.avOut.length := by
  cases move with
  | receiveSetup => exact Nat.le_refl _
  | other move notSetup => exact move.avOut_le

theorem Bus.rxFifo_ne_nil (move : Bus usbdev usbdev') (nonempty : usbdev.rxFifo ≠ []) :
    usbdev'.rxFifo ≠ [] := by
  cases move with
  | receiveSetup => exact List.append_ne_nil_of_left_ne_nil nonempty _
  | other move notSetup => exact move.rxFifo_ne_nil nonempty

/-- The controller never changes which buffer a CONFIGIN register names. -/
theorem Bus.configIn_buffer (move : Bus usbdev usbdev') (endpoint : Nat) :
    (usbdev'.configIn endpoint).buffer = (usbdev.configIn endpoint).buffer := by
  cases move with
  | receiveSetup ep inside size packet available room =>
      by_cases same : endpoint = ep.toNat
      · subst same
        simp only [Function.update_self, ConfigIn.afterSetup]
      · simp only [Function.update_of_ne same]
  | other move notSetup => exact move.configIn_buffer endpoint

theorem Bus.inSent (move : Bus usbdev usbdev') {endpoint : Nat}
    (sent : usbdev.inSent endpoint = true) : usbdev'.inSent endpoint = true := by
  cases move with
  | receiveSetup => exact sent
  | other move notSetup => exact move.inSent sent

/-- The register of the endpoint has a buffer: one with a packet for the host,
one whose packet has been cancelled, or one whose packet has been collected. -/
def Controller.Owns (usbdev : Controller) (endpoint : Nat) : Bool :=
  (usbdev.configIn endpoint).rdy || (usbdev.configIn endpoint).pend || usbdev.inSent endpoint

theorem Controller.owns_eq_false {endpoint : Nat} :
    usbdev.Owns endpoint = false ↔ ((usbdev.configIn endpoint).rdy = false ∧
      (usbdev.configIn endpoint).pend = false) ∧ usbdev.inSent endpoint = false := by
  unfold Owns
  rw [Bool.or_eq_false_iff, Bool.or_eq_false_iff]

/-- Only the driver gives a register a buffer, or takes it out. -/
theorem Bus.owns (move : Bus usbdev usbdev') (endpoint : Nat) :
    usbdev'.Owns endpoint = usbdev.Owns endpoint := by
  cases move with
  | receiveSetup ep inside size packet available room =>
      by_cases same : endpoint = ep.toNat
      · subst same
        simp [Controller.Owns, ConfigIn.afterSetup]
      · simp only [Controller.Owns, Function.update_of_ne same]
  | other move notSetup =>
      cases move with
      | receiveSetup | receiveOut | link => rfl
      | attempt other inside ready | acknowledge other inside ready =>
          by_cases same : endpoint = other
          · subst same
            simp [Controller.Owns, ready]
          · simp only [Controller.Owns, Function.update_of_ne same]

end Usbdev
end SunburstChip
