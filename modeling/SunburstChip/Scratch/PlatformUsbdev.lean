import SunburstChip.Dif.UsbdevEndpoints

namespace SunburstChip
namespace OpenTitanUsbdev

open Mmio Usbdev

/-!
# The USB device driver of the scratch software

The methods of `OpenTitanUsbdev`, which access the registers of the same
controller as `dif_usbdev.c` does.  The driver has no state of its own: the
buffers that the controller does not have are the bits of a word that is
passed to `supply_buffers` and returned by it.  Where a method has
out-parameters and fails without storing anything, the model returns nothing.
-/

abbrev maxPacketLength : Nat := 64
abbrev bufferCount : Nat := 32
abbrev maxEndpoints : Nat := 12

abbrev inIsochronousRegOffset : Nat := inIsoRegOffset
abbrev outIsochronousRegOffset : Nat := outIsoRegOffset

/-! ## Fields -/

/-- `UsbStatusField` -/
abbrev availableOutFullBit : BitVec 32 := 1#32 <<< 23
abbrev receiveDepthMask : BitVec 32 := 0xf#32 <<< 24
abbrev availableSetupFullBit : BitVec 32 := 1#32 <<< 30

/-- `ReceiveBufferField` -/
abbrev receiveBufferIdMask : BitVec 32 := 0x1f
abbrev receiveSizeMask : BitVec 32 := 0x7f#32 <<< 8
abbrev receiveSetupMask : BitVec 32 := 1#32 <<< 19
abbrev receiveEndpointIdMask : BitVec 32 := 0xf#32 <<< 20

/-- `ConfigInField` -/
abbrev configInBufferIdMask : BitVec 32 := 0x1f
abbrev configInReadyBit : BitVec 32 := 1#32 <<< 31

/-- `UsbControlField` -/
abbrev usbControlDeviceAddressMask : BitVec 32 := 0x7f#32 <<< 16

/-- `PhyConfigField` -/
abbrev phyConfigUseDifferentialReceiver : BitVec 32 := 1

/-! ## Supplying buffers -/

/-- The loop of `supply_buffers` over the buffer indexes. -/
def supplyLoop : List Nat -> BitVec 64 -> Mmio (BitVec 64)
  | [], bufferBitmap => return bufferBitmap
  | index :: rest, bufferBitmap => do
      let buffer := 1#32 <<< index
      if bufferBitmap &&& buffer.setWidth 64 = 0 then
        supplyLoop rest bufferBitmap
      else
        let usbStatus <- mmioRegionRead32 usbstatRegOffset
        if usbStatus &&& availableSetupFullBit ≠ 0 then
          let usbStatus <- mmioRegionRead32 usbstatRegOffset
          if usbStatus &&& availableOutFullBit ≠ 0 then
            return bufferBitmap
          mmioRegionWrite32 avoutbufferRegOffset (.ofNat 32 index)
          supplyLoop rest (bufferBitmap &&& (~~~buffer).setWidth 64)
        else
          mmioRegionWrite32 avsetupbufferRegOffset (.ofNat 32 index)
          supplyLoop rest (bufferBitmap &&& (~~~buffer).setWidth 64)

/-- `supply_buffers` -/
def supplyBuffers (bufferBitmap : BitVec 64) : Mmio (BitVec 64) :=
  supplyLoop (List.range bufferCount) bufferBitmap

/-- `init`: what it returns, and the bitmap. -/
def init : Mmio (Int × BitVec 64) := do
  let bufferBitmap <- supplyBuffers ((1#64 <<< bufferCount) - 1)
  mmioRegionWrite32 phyConfigRegOffset phyConfigUseDifferentialReceiver
  return (0, bufferBitmap)

/-! ## Endpoints -/

/-- Set or clear a bit of a register. -/
def assignBit (offset : Nat) (mask : BitVec 32) (value : Bool) : Mmio Unit := do
  let reg <- mmioRegionRead32 offset
  mmioRegionWrite32 offset ((reg &&& ~~~mask) ||| (if value then mask else 0))

/-- `configure_out_endpoint` -/
def configureOutEndpoint (endpointId : BitVec 8) (enabled setup isochronous : Bool) :
    Mmio Int := do
  if maxEndpoints <= endpointId.toNat then
    return -1
  let mask := 1#32 <<< endpointId.toNat
  assignBit epOutEnableRegOffset mask enabled
  assignBit outIsochronousRegOffset mask isochronous
  assignBit rxenableSetupRegOffset mask setup
  assignBit rxenableOutRegOffset mask enabled
  return 0

/-- `configure_in_endpoint` -/
def configureInEndpoint (endpointId : BitVec 8) (enabled isochronous : Bool) : Mmio Int := do
  if maxEndpoints <= endpointId.toNat then
    return -1
  let mask := 1#32 <<< endpointId.toNat
  assignBit epInEnableRegOffset mask enabled
  assignBit inIsochronousRegOffset mask isochronous
  return 0

/-- `set_endpoint_stalling` -/
def setEndpointStalling (endpointId : BitVec 8) (stalling : Bool) : Mmio Int := do
  if maxEndpoints <= endpointId.toNat then
    return -1
  let mask := 1#32 <<< endpointId.toNat
  assignBit outStallRegOffset mask stalling
  assignBit inStallRegOffset mask stalling
  return 0

/-- `set_device_address` -/
def setDeviceAddress (address : BitVec 8) : Mmio Int := do
  if 0x80 <= address.toNat then
    return -1
  let usbControl <- mmioRegionRead32 usbctrlRegOffset
  mmioRegionWrite32 usbctrlRegOffset
    ((usbControl &&& ~~~usbControlDeviceAddressMask) ||| (address.setWidth 32 <<< 16))
  return 0

/-! ## Packets -/

/-- `retrieve_collected_packet`: the endpoint and the buffer, nothing where it fails. -/
def retrieveCollectedPacket : Mmio (Option (BitVec 8 × BitVec 8)) := do
  let sent <- mmioRegionRead32 inSentRegOffset
  match (List.range maxEndpoints).find? (fun endpointId => sent &&& (1#32 <<< endpointId) ≠ 0) with
  | none => return none
  | some endpointId =>
      mmioRegionWrite32 inSentRegOffset (1#32 <<< endpointId)
      let configIn <- mmioRegionRead32 (configin0RegOffset + 4 * endpointId)
      return some (.ofNat 8 endpointId, (configIn &&& configInBufferIdMask).setWidth 8)

/-- `buffers` -/
def buffers (bufferId : BitVec 8) : Nat := bufferRegOffset + bufferId.toNat * maxPacketLength

/-- The whole words of `usbdev_transfer` to the device.  The unrolled loop and
the one after it copy one word after the other. -/
def transferWords (destination : Nat) (source : List (BitVec 8)) : Nat -> Mmio Unit
  | 0 => return ()
  | words + 1 => do
      mmioRegionWrite32 destination (setWordBytes 0 0 (source.take 4))
      transferWords (destination + 4) (source.drop 4) words

/-- `usbdev_transfer` to the device.  The source is main memory from the
pointer on; what lies behind the end of the list reads as zero. -/
def transferToDevice (destination : Nat) (source : List (BitVec 8)) (size : BitVec 8) :
    Mmio Unit := do
  let words := size.toNat / 4
  let trailing := size.toNat % 4
  transferWords destination source words
  if trailing = 0 then
    return ()
  mmioRegionWrite32 (destination + 4 * words)
    (setWordBytes 0 0 ((source.drop (4 * words)).take trailing))

/-- `usbdev_transfer` from the device: the bytes stored at the destination.
Whole words are copied one after the other and a last word is unpacked, as the
copying functions of `mmio.c` do. -/
def transferFromDevice (source size : Nat) : Mmio (List (BitVec 8)) :=
  memcpyWordsFromMmio32 source size

/-- `packet_send` -/
def packetSend (bufferId endpointId : BitVec 8) (data : List (BitVec 8)) (size : BitVec 8) :
    Mmio Int := do
  if 0 < size.toNat then
    transferToDevice (buffers bufferId) data size
  let offset := configin0RegOffset + 4 * endpointId.toNat
  mmioRegionWrite32 offset (bufferId.setWidth 32 ||| (size.setWidth 32 <<< 8))
  let configIn <- mmioRegionRead32 offset
  mmioRegionWrite32 offset (configIn ||| configInReadyBit)
  return 0

/-- What `packet_receive` stores through its out-parameters. -/
structure Packet where
  bufferId : BitVec 8
  endpointId : BitVec 8
  size : BitVec 16
  isSetup : Bool
  destination : List (BitVec 8)
  deriving DecidableEq

/-- `packet_receive`: the packet, nothing where it fails. -/
def packetReceive : Mmio (Option Packet) := do
  let usbStatus <- mmioRegionRead32 usbstatRegOffset
  if usbStatus &&& receiveDepthMask = 0 then
    return none
  let received <- mmioRegionRead32 rxfifoRegOffset
  let endpointId := ((received &&& receiveEndpointIdMask) >>> 20).setWidth 8
  let size := ((received &&& receiveSizeMask) >>> 8).setWidth 16
  let isSetup := received &&& receiveSetupMask != 0
  let bufferId := (received &&& receiveBufferIdMask).setWidth 8
  let destination <-
    if 0 < size.toNat then transferFromDevice (buffers bufferId) size.toNat else pure []
  return some ⟨bufferId, endpointId, size, isSetup, destination⟩

end OpenTitanUsbdev
end SunburstChip
