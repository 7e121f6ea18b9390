import SunburstChip.Hw.UartTx

namespace SunburstChip
namespace UartRx

/-!
# The receiver of the UART

`uart_rx.sv`.  The line that goes low while the receiver is idle begins a byte.  From
then on the line is looked at in the middle of each bit, and a start bit that is not
low in its middle is none.
-/

/-- The flops of the receiver. -/
structure State where
  rxValidQ : Bool
  sregQ : BitVec 11
  bitCntQ : BitVec 4
  baudDivQ : BitVec 4
  tickBaudQ : Bool
  idleQ : Bool
deriving DecidableEq

/-- The inputs of the receiver. -/
structure Input where
  rxEnable : Bool
  tickBaudX16 : Bool
  parityEnable : Bool
  parityOdd : Bool
  rx : Bool
deriving DecidableEq

variable (s : State) (input : Input)

/-- What the flops take, but for the one that says that a byte is there. -/
def sample : State :=
  if !input.rxEnable then ⟨s.rxValidQ, 0, 0, 0, false, true⟩
  else
    let counted := baudNext input.tickBaudX16 s.baudDivQ
    if s.idleQ && !input.rx then
      ⟨s.rxValidQ, 0, UartTx.bits input.parityEnable, 8, false, false⟩
    else if !s.idleQ && s.tickBaudQ then
      if s.bitCntQ == UartTx.bits input.parityEnable && input.rx then
        ⟨s.rxValidQ, s.sregQ, 0, counted.2, counted.1, true⟩
      else
        ⟨s.rxValidQ, BitVec.ofBool input.rx ++ s.sregQ.extractLsb' 1 10, s.bitCntQ - 1, counted.2,
          counted.1, s.bitCntQ == 1⟩
    else ⟨s.rxValidQ, s.sregQ, s.bitCntQ, counted.2, counted.1, s.idleQ⟩

/-- `uart_rx` -/
def receiver : Circuit State Input where
  reset := ⟨false, 0, 0, 0, false, true⟩
  next s input := { sample s input with rxValidQ := s.tickBaudQ && s.bitCntQ == 1 }

/-- `rx_data` -/
def rxData (parityEnable : Bool) : BitVec 8 :=
  if parityEnable then s.sregQ.extractLsb' 1 8 else s.sregQ.extractLsb' 2 8

/-- `frame_err` -/
def frameErr : Bool := s.rxValidQ && !s.sregQ.getLsbD 10

/-- `rx_parity_err` -/
def rxParityErr (parityEnable parityOdd : Bool) : Bool :=
  parityEnable && s.rxValidQ && xorReduce (s.sregQ.extractLsb' 1 9 ++ BitVec.ofBool parityOdd)

end UartRx
end SunburstChip
