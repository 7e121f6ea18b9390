import SunburstChip.Hw.TlulSocket1n
import SunburstChip.Hw.TlulSocketM1
import SunburstChip.Lib.Napot

namespace SunburstChip
namespace XbarMain

open Tlul

/-!
# The main crossbar

`xbar_main.sv`, between the two ports of the core and the debug module on one
side and the memories and devices on the other.  Each host has a socket that
selects a device by the address, and each device a socket that chooses between
the hosts.  The crossbar is put together from these as the module has it, up to
the queue that takes the requests for the peripherals into their clock domain.
-/

/-- The hosts. -/
inductive Host where
  | coreIbexCorei
  | coreIbexCored
  | dbg
deriving DecidableEq

/-- The devices. -/
inductive Device where
  | sram
  | rom
  | dbgMem
  | revocationRam
  | revCtl
  | coreIbexCfg
  | rvPlic
  | peri
deriving DecidableEq

/-- `ADDR_SPACE_SRAM` and its like -/
def Device.addrSpace : Device -> BitVec 32
  | .rom => 0x00100000
  | .sram => 0x00200000
  | .revocationRam => 0x00300000
  | .revCtl => 0x00340000
  | .coreIbexCfg => 0x811f0000
  | .dbgMem => 0xb0000000
  | .rvPlic => 0x88000000
  | .peri => 0x40000000

/-- The addresses of a device take so many bits: `ADDR_MASK_SRAM` and its like have these set. -/
def Device.addrBits : Device -> Nat
  | .rom => 12
  | .sram => 19
  | .revocationRam => 13
  | .revCtl => 12
  | .coreIbexCfg => 12
  | .dbgMem => 12
  | .rvPlic => 26
  | .peri => 30

/-- `ADDR_MASK_SRAM` and its like -/
def Device.addrMask (device : Device) : BitVec 32 := Napot.ones 32 device.addrBits

/-- The devices of a host, as the ports of its socket have them. -/
def Host.devices : Host -> List Device
  | .coreIbexCorei => [.sram, .rom, .dbgMem]
  | .coreIbexCored => [.sram, .rom, .dbgMem, .revocationRam, .revCtl, .coreIbexCfg, .rvPlic, .peri]
  | .dbg => [.sram, .rom, .revocationRam, .revCtl, .coreIbexCfg, .rvPlic, .peri]

/-- The hosts of a device, as the ports of its socket have them. -/
def Device.hosts : Device -> List Host
  | .sram | .rom => [.coreIbexCorei, .coreIbexCored, .dbg]
  | .dbgMem => [.coreIbexCorei, .coreIbexCored]
  | .revocationRam | .revCtl | .coreIbexCfg | .rvPlic | .peri => [.coreIbexCored, .dbg]

/-- The address is one of the device's. -/
def Device.addressed (device : Device) (address : BitVec 32) : Bool :=
  address &&& ~~~device.addrMask == device.addrSpace

/-- `dev_sel_s1n_11` and its like: the port of the first device that has the address, or the number
of ports. -/
def Host.devSel (host : Host) (a : Request) : Nat :=
  host.devices.findIdx (fun device => device.addressed a.address)

/-- The port of a device on the socket of a host. -/
def Host.portOf (host : Host) (device : Device) : Nat := host.devices.idxOf device

/-- The port of a host on the socket of a device. -/
def Device.portOf (device : Device) (host : Host) : Nat := device.hosts.idxOf host

/-- `STIDW`: the bits that tell the hosts of a device apart. -/
def Device.stIdW (device : Device) : Nat := if device.hosts.length = 3 then 2 else 1

/-! ## The crossbar -/

/-- The flops of the crossbar: those of the hosts' sockets and of the devices' sockets. -/
structure State where
  s1n : Host -> TlulSocket1n.State
  sm1 : (device : Device) -> BitVec device.hosts.length

/-- The inputs of the crossbar: the hosts' sides and the devices' sides of their links. -/
structure Input where
  tlHost : Host -> H2d
  tlDevice : Device -> D2h

/-- `tl_s1n_11_ds_h2d[0]` and its like: what the socket of a host sends towards a device. -/
def downstream (s : State) (input : Input) (host : Host) (device : Device) : H2d :=
  TlulSocket1n.tlUO host.devices.length host.devSel (s.s1n host) (input.tlHost host)
    (host.portOf device)

/-- What the socket of a device is given. -/
def sm1Input (s : State) (input : Input) (device : Device) : TlulSocketM1.Input where
  tlHI port := downstream s input (device.hosts.getD port .dbg) device
  tlDI := input.tlDevice device

/-- `tl_sm1_12_us_d2h[0]` and its like: what the socket of a device sends towards a host. -/
def upstream (s : State) (input : Input) (device : Device) (host : Host) : D2h :=
  TlulSocketM1.tlHO device.hosts.length device.stIdW (s.sm1 device) (sm1Input s input device)
    (device.portOf host)

/-- What the socket of a host is given by the sockets of its devices. -/
def s1nInput (s : State) (input : Input) (host : Host) (port : Nat) : D2h :=
  upstream s input (host.devices.getD port .sram) host

/-- `tl_core_ibex__corei_o` and its like -/
def tlHostO (s : State) (input : Input) (host : Host) : D2h :=
  TlulSocket1n.tlHO host.devices.length host.devSel (s.s1n host) (input.tlHost host)
    (s1nInput s input host)

/-- `tl_sram_o` and its like -/
def tlDeviceO (s : State) (input : Input) (device : Device) : H2d :=
  TlulSocketM1.tlDO device.hosts.length device.stIdW (s.sm1 device) (sm1Input s input device)

/-- `xbar_main` -/
def xbarMain : Circuit State Input where
  reset := ⟨fun _ => TlulSocket1n.reset, fun _ => 0⟩
  next s input :=
    { s1n := fun host =>
        TlulSocket1n.step host.devices.length host.devSel (s.s1n host) (input.tlHost host)
          (s1nInput s input host)
      sm1 := fun device =>
        TlulSocketM1.step device.hosts.length (s.sm1 device) (sm1Input s input device) }

/-! ## The wiring -/

/-- Each port of a host's socket is that of its device. -/
theorem portOf_device (host : Host) {port : Nat} (inside : port < host.devices.length) :
    host.portOf (host.devices.getD port .sram) = port := by
  cases host <;> revert inside <;> revert port <;> decide

/-- Each port of a device's socket is that of its host. -/
theorem portOf_host (device : Device) {port : Nat} (inside : port < device.hosts.length) :
    device.portOf (device.hosts.getD port .dbg) = port := by
  cases device <;> revert inside <;> revert port <;> decide

/-! ## The links -/

section

variable (inputs : Nat -> Input)

/-- The link of a host. -/
def hostLink (host : Host) : Link where
  h2d t := (inputs t).tlHost host
  d2h t := tlHostO (xbarMain.state inputs t) (inputs t) host

/-- The link of a device. -/
def deviceLink (device : Device) : Link where
  h2d t := tlDeviceO (xbarMain.state inputs t) (inputs t) device
  d2h t := (inputs t).tlDevice device

/-- The link between the socket of a host and that of a device. -/
def middleLink (host : Host) (device : Device) : Link where
  h2d t := downstream (xbarMain.state inputs t) (inputs t) host device
  d2h t := upstream (xbarMain.state inputs t) (inputs t) device host

/-- The socket of a host in a run of the crossbar. -/
def s1nRun (host : Host) : TlulSocket1n.Run host.devices.length host.devSel where
  host := hostLink inputs host
  device port :=
    if port < host.devices.length then middleLink inputs host (host.devices.getD port .sram)
    else
      { h2d := fun t => TlulSocket1n.tlUO host.devices.length host.devSel
          ((xbarMain.state inputs t).s1n host) ((inputs t).tlHost host) port
        d2h := fun t => TlulErrResp.tlHO ((xbarMain.state inputs t).s1n host).errResp }
  state t := (xbarMain.state inputs t).s1n host
  start := rfl
  next t := by
    refine TlulSocket1n.step_congr _ _ _ _ (fun port device => ?_)
    rw [if_pos device]
    rfl
  up t := by
    refine TlulSocket1n.tlHO_congr _ _ _ _ (fun port device => ?_)
    rw [if_pos device]
    rfl
  down port inside t := by
    by_cases device : port < host.devices.length
    · rw [if_pos device]
      change TlulSocket1n.tlUO _ _ _ _ (host.portOf (host.devices.getD port .sram)) = _
      rw [portOf_device host device]
      rfl
    · rw [if_neg device]
      rfl
  err t := by
    rw [if_neg (Nat.lt_irrefl _)]

/-- The socket of a device in a run of the crossbar. -/
def sm1Run (device : Device) : TlulSocketM1.Run device.hosts.length device.stIdW where
  host port := middleLink inputs (device.hosts.getD port .dbg) device
  device := deviceLink inputs device
  mask t := (xbarMain.state inputs t).sm1 device
  start := rfl
  next t := rfl
  up port inside t := by
    change TlulSocketM1.tlHO _ _ _ _ (device.portOf (device.hosts.getD port .dbg)) = _
    rw [portOf_host device inside]
    rfl
  down t := rfl

end

/-! ## Addresses -/

theorem addrBits_lt (device : Device) : device.addrBits < 32 := by
  cases device <;> decide

/-- A device has the addresses from its start on, as many as its bits can tell apart. -/
theorem addressed_iff (device : Device) (address : BitVec 32) :
    device.addressed address = true ↔ device.addrSpace.toNat <= address.toNat ∧
      address.toNat < device.addrSpace.toNat + 2 ^ device.addrBits := by
  have aligned : device.addrSpace.toNat % 2 ^ device.addrBits = 0 := by
    cases device <;> decide
  rw [Device.addressed, beq_iff_eq, Device.addrMask,
    Napot.and_not_ones_iff (addrBits_lt device) aligned]

/-- No address is of two devices. -/
theorem addressed_unique {device other : Device} {address : BitVec 32}
    (one : device.addressed address = true) (another : other.addressed address = true) :
    device = other := by
  have apart : forall device other : Device, device = other ∨
      device.addrSpace.toNat + 2 ^ device.addrBits <= other.addrSpace.toNat ∨
      other.addrSpace.toNat + 2 ^ other.addrBits <= device.addrSpace.toNat := by
    intro device other
    cases device <;> cases other <;> decide
  rw [addressed_iff] at one another
  rcases apart device other with same | before | after
  · exact same
  · omega
  · omega

/-- The port of a request is that of the device that has its address. -/
theorem port_devSel (host : Host) {device : Device} (reached : device ∈ host.devices)
    (a : Request) : (TlulSocket1n.port host.devices.length host.devSel a == host.portOf device) =
      device.addressed a.address := by
  have inside : host.portOf device < host.devices.length := List.idxOf_lt_length_of_mem reached
  rw [Bool.eq_iff_iff, beq_iff_eq]
  constructor
  · intro same
    unfold TlulSocket1n.port at same
    by_cases found : host.devSel a < host.devices.length
    · rw [if_pos found] at same
      have first : (host.devices[host.devSel a]).addressed a.address = true :=
        @List.findIdx_getElem _ (fun device : Device => device.addressed a.address) host.devices found
      have there : host.devices[host.devSel a] = device := by
        simp only [same]
        exact List.getElem_idxOf inside
      rw [there] at first
      exact first
    · rw [if_neg found] at same
      omega
  · intro addressed
    have only : (fun other : Device => other.addressed a.address) = (fun other => other == device) := by
      funext other
      rw [Bool.eq_iff_iff, beq_iff_eq]
      constructor
      · exact fun another => addressed_unique another addressed
      · rintro rfl
        exact addressed
    have same : host.devSel a = host.portOf device := by
      unfold Host.devSel Host.portOf
      rw [only]
      rfl
    unfold TlulSocket1n.port
    rw [same, if_pos inside]

/-! ## The whole crossbar -/

section

variable {inputs : Nat -> Input}

theorem stIdW_fits (device : Device) :
    device.stIdW <= 8 ∧ device.hosts.length <= 2 ^ device.stIdW ∧ 6 <= 8 - device.stIdW := by
  cases device <;> decide

variable {host : Host} {device : Device}

theorem portOf_lt (reached : device ∈ host.devices) :
    host.portOf device < host.devices.length := List.idxOf_lt_length_of_mem reached

/-- The link of a device on the socket of a host. -/
theorem s1nRun_device (reached : device ∈ host.devices) :
    (s1nRun inputs host).device (host.portOf device) = middleLink inputs host device := by
  have there : host.devices.getD (host.portOf device) .sram = device := by
    rw [List.getD_eq_getElem _ _ (portOf_lt reached)]
    exact List.getElem_idxOf (portOf_lt reached)
  change (if _ then _ else _) = _
  rw [if_pos (portOf_lt reached), there]

/-- The port of a host on the socket of a device that it reaches. -/
theorem connected_mem (reached : device ∈ host.devices) :
    device.portOf host < device.hosts.length ∧
      device.hosts.getD (device.portOf host) .dbg = host := by
  revert reached
  cases host <;> cases device <;> decide

/-- The same link on the socket of the device. -/
theorem sm1Run_host (reached : device ∈ host.devices) :
    (sm1Run inputs device).host (device.portOf host) = middleLink inputs host device := by
  change middleLink inputs (device.hosts.getD _ .dbg) device = _
  rw [(connected_mem reached).2]

/-- A device has the requests of a host that are for it. -/
theorem requests_middle (reached : device ∈ host.devices) (t : Nat) :
    (middleLink inputs host device).requests t =
      ((hostLink inputs host).requests t).filter (fun a => device.addressed a.address) := by
  have requests := (s1nRun inputs host).requests_port (Nat.le_of_lt (portOf_lt reached)) t
  rw [s1nRun_device reached] at requests
  rw [requests]
  refine List.filter_congr fun a _ => ?_
  exact port_devSel host reached a

/-- The sources of what a host requests of a device are those of the host. -/
theorem middle_inRange (reached : device ∈ host.devices)
    (inRange : forall t a, a ∈ (hostLink inputs host).requests t -> a.source.toNat < 2 ^ 6)
    (t : Nat) (a : Request) (among : a ∈ (middleLink inputs host device).requests t) :
    a.source.toNat < 2 ^ (8 - device.stIdW) := by
  rw [requests_middle reached] at among
  exact Nat.lt_of_lt_of_le (inRange t a (List.mem_filter.mp among).1)
    (Nat.pow_le_pow_right (by decide) (stIdW_fits device).2.2)

theorem middle_serves (reached : device ∈ host.devices)
    (serves : (deviceLink inputs device).Serves)
    (inRange : forall t a, a ∈ (hostLink inputs host).requests t -> a.source.toNat < 2 ^ 6) :
    (middleLink inputs host device).Serves := by
  rcases stIdW_fits device with ⟨fits, enough, _⟩
  rw [<- sm1Run_host reached]
  refine TlulSocketM1.Run.host_serves (sm1Run inputs device) fits enough serves
    (connected_mem reached).1 ?_
  rw [sm1Run_host reached]
  exact middle_inRange reached inRange

theorem middle_bounded (reached : device ∈ host.devices)
    (serves : (deviceLink inputs device).Serves) {t bound : Nat}
    (bounded : ((deviceLink inputs device).requests t).length <=
      ((deviceLink inputs device).responses t).length + bound) :
    ((middleLink inputs host device).requests t).length <=
      ((middleLink inputs host device).responses t).length + bound := by
  rcases stIdW_fits device with ⟨fits, enough, _⟩
  rw [<- sm1Run_host reached]
  exact TlulSocketM1.Run.host_bounded (sm1Run inputs device) fits enough serves
    (connected_mem reached).1 bounded

/-- However the hosts and the devices behave on their links, as long as each device answers its
requests in order: each host has its requests answered in order, by the device that has the address,
or by an error where none has.  The device has exactly the requests of the hosts for it, with the
numbers of the hosts in their sources, and each host the responses that the device has given to its
requests. -/
theorem routed (inputs : Nat -> Input)
    (serves : forall device, (deviceLink inputs device).Serves)
    (bounded : forall device t, ((deviceLink inputs device).requests t).length <=
      ((deviceLink inputs device).responses t).length + 256)
    (inRange : forall host t a, a ∈ (hostLink inputs host).requests t ->
      a.source.toNat < 2 ^ 6) (host : Host) :
    (hostLink inputs host).Serves ∧ forall t, Exists fun answered : List (Request × Response) =>
      (Exists fun pending =>
        (hostLink inputs host).requests t = answered.map Prod.fst ++ pending) ∧
      (hostLink inputs host).responses t = answered.map (fun pair => fifoRsp pair.2) ∧
      (forall pair, pair ∈ answered -> pair.2.source = pair.1.source) ∧
      (forall device, device ∈ host.devices ->
        (((hostLink inputs host).requests t).filter
            (fun a => device.addressed a.address)).map
              (TlulSocketM1.shift device.stIdW (device.portOf host)) =
          ((deviceLink inputs device).requests t).filter
            (fun a => TlulSocketM1.steer device.stIdW a.source == device.portOf host) ∧
        (answered.filter (fun pair => device.addressed pair.1.address)).map Prod.snd =
          (((deviceLink inputs device).responses t).filter
            (fun r => TlulSocketM1.steer device.stIdW r.source == device.portOf host)).map
              (TlulSocketM1.unshift device.stIdW)) ∧
      forall pair, pair ∈ answered ->
        (forall device, device ∈ host.devices -> device.addressed pair.1.address = false) ->
        pair.2.error = true := by
  have ports : forall port, port < host.devices.length ->
      (s1nRun inputs host).device port = middleLink inputs host (host.devices.getD port .sram) ∧
        host.devices.getD port .sram ∈ host.devices := by
    intro port inside
    refine ⟨if_pos inside, ?_⟩
    rw [List.getD_eq_getElem _ _ inside]
    exact List.getElem_mem inside
  have serve : forall port, port < host.devices.length ->
      ((s1nRun inputs host).device port).Serves := by
    intro port inside
    rw [(ports port inside).1]
    exact middle_serves (ports port inside).2 (serves _) (inRange host)
  have bound : forall port, port < host.devices.length -> forall t,
      (((s1nRun inputs host).device port).requests t).length <=
        (((s1nRun inputs host).device port).responses t).length + 256 := by
    intro port inside t
    rw [(ports port inside).1]
    exact middle_bounded (ports port inside).2 (serves _) (bounded _ t)
  refine ⟨TlulSocket1n.Run.host_serves serve bound, fun t => ?_⟩
  rcases (s1nRun inputs host).balanced serve bound t with ⟨answered, pending, balance⟩
  refine ⟨answered, ⟨pending, balance.requests⟩, balance.responses, balance.sources, ?_, ?_⟩
  · intro device reached
    rcases stIdW_fits device with ⟨fits, enough, _⟩
    have requests := @TlulSocketM1.Run.requests_host _ _ (sm1Run inputs device) fits enough _
      (connected_mem reached).1 t
    have responses := @TlulSocketM1.Run.responses_host _ _ (sm1Run inputs device) _
      (connected_mem reached).1 t
    have answers := balance.fromPort _ (Nat.le_of_lt (portOf_lt reached))
    rw [sm1Run_host reached] at requests responses
    rw [s1nRun_device reached, responses] at answers
    refine ⟨?_, ?_⟩
    · rw [<- requests_middle reached]
      exact requests.symm
    · refine Eq.trans ?_ answers.symm
      refine congrArg (List.map Prod.snd) (List.filter_congr fun pair _ => ?_)
      exact (port_devSel host reached pair.1).symm
  · intro pair among nowhere
    have last : TlulSocket1n.port host.devices.length host.devSel pair.1 =
        host.devices.length := by
      have missed : host.devSel pair.1 = host.devices.length :=
        List.findIdx_eq_length.mpr nowhere
      unfold TlulSocket1n.port
      rw [missed, if_neg (Nat.lt_irrefl _)]
    refine (s1nRun inputs host).err_error t pair.2 ?_
    rw [balance.fromPort _ (Nat.le_refl _)]
    refine List.mem_map_of_mem (List.mem_filter.mpr ⟨among, ?_⟩)
    rw [last]
    exact beq_self_eq_true _

/-- Both ports of the core read from the memory, which answers one after the other. -/
def bothRead (t : Nat) : Input where
  tlHost host :=
    { a :=
        if t = 0 ∧ host = .coreIbexCorei then
          some ⟨get, 0, 2, 5, 0x200000, 0xf, 0, ⟨0, muBi4False, 0, 0, false⟩⟩
        else if t <= 1 ∧ host = .coreIbexCored then
          some ⟨get, 0, 2, 6, 0x200004, 0xf, 0, ⟨0, muBi4False, 0, 0, false⟩⟩
        else none
      dReady := true }
  tlDevice device :=
    { d :=
        if t = 1 ∧ device = .sram then
          some ⟨.accessAckData, 0, 2, 20, 0, 0xaa, ⟨0, 0, false⟩, false⟩
        else if t = 2 ∧ device = .sram then
          some ⟨.accessAckData, 0, 2, 25, 0, 0xbb, ⟨0, 0, false⟩, false⟩
        else none
      aReady := true }

theorem routed_bothRead : (forall host, (hostLink bothRead host).Serves) ∧
    ((hostLink bothRead .coreIbexCorei).responses 3).map Response.data = [0xaa] ∧
      ((hostLink bothRead .coreIbexCored).responses 3).map Response.data = [0xbb] := by
  refine ⟨fun host => (routed bothRead ?_ ?_ ?_ host).1, by decide +kernel, by decide +kernel⟩
  · intro device t r offered
    change (if _ then _ else if _ then _ else _) = _ at offered
    split at offered
    · next first =>
        rcases first with ⟨rfl, rfl⟩
        rw [<- Option.some.inj offered]
        decide +kernel
    · split at offered
      · next second =>
          rcases second with ⟨rfl, rfl⟩
          rw [<- Option.some.inj offered]
          decide +kernel
      · cases offered
  · intro device t
    have quiet (t : Nat) (late : 2 <= t) : ((deviceLink bothRead device).h2d t).a = none := by
      have unasked (host : Host) : ((bothRead t).tlHost host).a = none := by
        change (if _ then _ else if _ then _ else _) = _
        rw [if_neg (fun first => by omega), if_neg (fun second => by omega)]
      have silent (host : Host) : (downstream (xbarMain.state bothRead t) (bothRead t) host device).a =
          none := by
        unfold downstream TlulSocket1n.tlUO
        rw [unasked]
        rfl
      change Option.bind _ (fun i => (downstream _ _ (device.hosts.getD i .dbg) device).a.map _) = _
      rw [Option.bind_eq_none_iff]
      intro i _
      rw [silent]
      rfl
    exact Nat.le_trans ((deviceLink bothRead device).length_requests_le quiet t) (by omega)
  · intro host t a among
    rcases Link.mem_requests among with ⟨k, request⟩
    change (if _ then _ else if _ then _ else _) = _ at request
    split at request
    · rw [<- Option.some.inj request]
      decide
    · split at request
      · rw [<- Option.some.inj request]
        decide
      · cases request

end

end XbarMain
end SunburstChip
