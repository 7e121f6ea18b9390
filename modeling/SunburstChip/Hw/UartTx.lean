import SunburstChip.Lib.Circuit

namespace SunburstChip

/-!
# The transmitter of the UART

`uart_tx.sv`.  Sixteen ticks make a bit.  A byte that is written is put into a shift
register with its start bit, its parity bit where there is one, and its stop bit, and
goes out from the next beginning of a bit on.
-/

/-- `{carry, q} + 1` for each tick: the beginning of a bit and the ticks since then. -/
def baudNext (tickBaudX16 : Bool) (baudDivQ : BitVec 4) : Bool × BitVec 4 :=
  if tickBaudX16 then (baudDivQ == 15, baudDivQ + 1) else (false, baudDivQ)

namespace UartTx

/-- The flops of the transmitter. -/
structure State where
  baudDivQ : BitVec 4
  tickBaudQ : Bool
  bitCntQ : BitVec 4
  sregQ : BitVec 11
  txQ : Bool
deriving DecidableEq

/-- The inputs of the transmitter. -/
structure Input where
  txEnable : Bool
  tickBaudX16 : Bool
  parityEnable : Bool
  wr : Bool
  wrParity : Bool
  wrData : BitVec 8
deriving DecidableEq

variable (s : State) (input : Input)

/-- What goes out for a byte: `{1'b1, (parity_enable ? wr_parity : 1'b1), wr_data, 1'b0}`. -/
def frame (parityEnable wrParity : Bool) (wrData : BitVec 8) : BitVec 11 :=
  1#1 ++ BitVec.ofBool (if parityEnable then wrParity else true) ++ wrData ++ 0#1

/-- How many bits go out for a byte. -/
def bits (parityEnable : Bool) : BitVec 4 := if parityEnable then 11 else 10

/-- `bit_cnt_d`, `sreg_d` and `tx_d` -/
def shift : BitVec 4 × BitVec 11 × Bool :=
  if !input.txEnable then (0, 0x7ff, true)
  else if input.wr then
    (bits input.parityEnable, frame input.parityEnable input.wrParity input.wrData, s.txQ)
  else if s.tickBaudQ && s.bitCntQ != 0 then
    (s.bitCntQ - 1, 1#1 ++ s.sregQ.extractLsb' 1 10, s.sregQ.getLsbD 0)
  else (s.bitCntQ, s.sregQ, s.txQ)

/-- `uart_tx` -/
def transmitter : Circuit State Input where
  reset := ⟨0, false, 0, 0x7ff, true⟩
  next s input :=
    { baudDivQ := (baudNext input.tickBaudX16 s.baudDivQ).2
      tickBaudQ := (baudNext input.tickBaudX16 s.baudDivQ).1
      bitCntQ := (shift s input).1
      sregQ := (shift s input).2.1
      txQ := (shift s input).2.2 }

/-- `idle` -/
def idle : Bool := if input.txEnable then s.bitCntQ == 0 else true

end UartTx
end SunburstChip
