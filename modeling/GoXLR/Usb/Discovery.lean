import GoXLR.Usb.Device

/-! Finding a GoXLR on the bus (`device/usb.rs`): `find_devices` lists the places of the attached
devices whose descriptor names a GoXLR, and `from_device` opens the device at a place through
`find_device`. The bus is what `rusb::devices()` returns: a list of devices, each at a bus
number and an address, with a descriptor that may fail to read and a handle that may fail to
open. -/

namespace GoXLR.Usb

/-- `GoXLRDevice`: the place of a device on the bus. -/
structure GoXLRDevice where
  busNumber : UInt8
  address : UInt8
  deriving DecidableEq, Repr

structure DeviceDescriptor where
  vendorId : UInt16
  productId : UInt16
  deriving DecidableEq, Repr

/-- A device of `rusb::devices()`, with what its `device_descriptor()` and `open()` return. -/
structure UsbDevice where
  busNumber : UInt8
  address : UInt8
  deviceDescriptor : Except UsbError DeviceDescriptor
  openHandle : Except UsbError Unit

/-- `VID_GOXLR`, `PID_GOXLR_FULL` and `PID_GOXLR_MINI` of `goxlr.rs`, outside `src/`. -/
structure Ids where
  vidGoxlr : UInt16
  pidGoxlrFull : UInt16
  pidGoxlrMini : UInt16

/-- What `find_device` and `from_device` fail with: a `bail!`, or the error of `open()`. -/
inductive AttachError
  | bail (message : String)
  | usb (e : UsbError)
  deriving DecidableEq, Repr

variable (ids : Ids)

/-- The test `find_devices` makes of a descriptor. -/
def Ids.isGoXLR (descriptor : DeviceDescriptor) : Bool :=
  descriptor.vendorId == ids.vidGoxlr &&
    (descriptor.productId == ids.pidGoxlrFull || descriptor.productId == ids.pidGoxlrMini)

/-- One pass of the `for` loop of `find_devices`. -/
def findDevicesStep (foundDevices : List GoXLRDevice) (device : UsbDevice) : List GoXLRDevice :=
  match device.deviceDescriptor with
  | .ok descriptor =>
    if ids.isGoXLR descriptor then foundDevices ++ [⟨device.busNumber, device.address⟩]
    else foundDevices
  | .error _ => foundDevices

/-- `find_devices`: the loop over `rusb::devices()`, pushing onto `found_devices`. -/
def findDevices (devices : Except UsbError (List UsbDevice)) : List GoXLRDevice :=
  match devices with
  | .ok devices => devices.foldl (findDevicesStep ids) []
  | .error _ => []

/-- One pass of the `for` loop of `find_device`: the device and its descriptor, when it is at
the place and its descriptor reads. -/
def findDeviceAt (device : GoXLRDevice) (usbDevice : UsbDevice) :
    Option (UsbDevice × DeviceDescriptor) :=
  if usbDevice.busNumber = device.busNumber ∧ usbDevice.address = device.address then
    match usbDevice.deviceDescriptor with
    | .ok descriptor => some (usbDevice, descriptor)
    | .error _ => none
  else none

/-- `find_device`: the first device at the place whose descriptor reads, or `bail!`. -/
def findDevice (devices : Except UsbError (List UsbDevice)) (device : GoXLRDevice) :
    Except AttachError (UsbDevice × DeviceDescriptor) :=
  match devices with
  | .ok devices =>
    match devices.findSome? (findDeviceAt device) with
    | some found => .ok found
    | none => .error (.bail "Specified Device not Found!")
  | .error _ => .error (.bail "Specified Device not Found!")

/-- `AttachGoXLR::from_device`: the device `find_device` finds, opened, with `command_count`
at 0. The session keeps the descriptor, which picks the settle delay of `perform_request`. -/
def AttachGoXLR.fromDevice {Command : Type} (devices : Except UsbError (List UsbDevice))
    (device : GoXLRDevice) : Except AttachError (DeviceDescriptor × GoXLRUSB Command) := do
  let (usbDevice, descriptor) ← findDevice devices device
  match usbDevice.openHandle with
  | .ok () => pure (descriptor, GoXLR.Usb.fromDevice)
  | .error e => throw (.usb e)

/-- The `sleep_time` of `perform_request`, in milliseconds: 10 on the Mini, 3 otherwise. -/
def sleepTime (descriptor : DeviceDescriptor) : Nat :=
  if descriptor.productId = ids.pidGoxlrMini then 10 else 3

def UsbDevice.location (usbDevice : UsbDevice) : GoXLRDevice :=
  ⟨usbDevice.busNumber, usbDevice.address⟩

def Ids.lists (usbDevice : UsbDevice) : Bool :=
  match usbDevice.deviceDescriptor with
  | .ok descriptor => ids.isGoXLR descriptor
  | .error _ => false

@[simp] theorem Ids.isGoXLR_eq_true (descriptor : DeviceDescriptor) :
    ids.isGoXLR descriptor = true ↔ descriptor.vendorId = ids.vidGoxlr ∧
      (descriptor.productId = ids.pidGoxlrFull ∨ descriptor.productId = ids.pidGoxlrMini) := by
  simp [Ids.isGoXLR]

theorem findDevicesStep_eq (foundDevices : List GoXLRDevice) (device : UsbDevice) :
    findDevicesStep ids foundDevices device =
      foundDevices ++ ([device].filter ids.lists).map UsbDevice.location := by
  unfold findDevicesStep Ids.lists
  split <;> (try split) <;> simp_all [UsbDevice.location]

theorem foldl_findDevicesStep (devices : List UsbDevice) :
    ∀ foundDevices, devices.foldl (findDevicesStep ids) foundDevices =
      foundDevices ++ (devices.filter ids.lists).map UsbDevice.location := by
  induction devices with
  | nil => simp
  | cons device devices ih =>
    intro foundDevices
    rw [List.foldl_cons, ih, findDevicesStep_eq, List.append_assoc, ← List.map_append,
      ← List.filter_append]
    rfl

/-- `find_devices` lists, in the order of the bus, the place of every device whose descriptor
reads and names a GoXLR, and nothing when the bus cannot be enumerated. -/
theorem findDevices_eq (devices : Except UsbError (List UsbDevice)) :
    findDevices ids devices =
      ((devices.toOption.getD []).filter ids.lists).map UsbDevice.location := by
  rcases devices with _ | devices
  · rfl
  · exact (foldl_findDevicesStep ids devices []).trans (List.nil_append _)

theorem findDeviceAt_of_ne {device : GoXLRDevice} {usbDevice : UsbDevice}
    (h : usbDevice.location ≠ device) : findDeviceAt device usbDevice = none := by
  rw [findDeviceAt, if_neg]
  rintro ⟨hb, ha⟩
  exact h (by rw [UsbDevice.location, hb, ha])

theorem findDeviceAt_location {usbDevice : UsbDevice} {descriptor : DeviceDescriptor}
    (h : usbDevice.deviceDescriptor = .ok descriptor) :
    findDeviceAt usbDevice.location usbDevice = some (usbDevice, descriptor) := by
  simp [findDeviceAt, UsbDevice.location, h]

theorem findSome_findDeviceAt {devices : List UsbDevice}
    (hplaces : (devices.map UsbDevice.location).Nodup) {usbDevice : UsbDevice}
    (hmem : usbDevice ∈ devices) {descriptor : DeviceDescriptor}
    (h : usbDevice.deviceDescriptor = .ok descriptor) :
    devices.findSome? (findDeviceAt usbDevice.location) = some (usbDevice, descriptor) := by
  induction devices with
  | nil => cases hmem
  | cons other devices ih =>
    rw [List.map_cons, List.nodup_cons] at hplaces
    rcases List.mem_cons.1 hmem with rfl | hmem
    · rw [List.findSome?_cons, findDeviceAt_location h]
    · have hne : other.location ≠ usbDevice.location := fun he =>
        hplaces.1 (he ▸ List.mem_map_of_mem _ hmem)
      rw [List.findSome?_cons, findDeviceAt_of_ne hne]
      exact ih hplaces.2 hmem

variable {Command : Type}

/-- A place `find_devices` lists is opened by `from_device` on the same bus, when no two devices
share a place: `find_device` finds the listed device, whose descriptor names a GoXLR, and
`from_device` returns that descriptor with a fresh session, or the error of `open()`. It never
fails with "Specified Device not Found!". -/
theorem fromDevice_of_findDevices {devices : List UsbDevice}
    (hplaces : (devices.map UsbDevice.location).Nodup) {device : GoXLRDevice}
    (hdevice : device ∈ findDevices ids (.ok devices)) :
    ∃ usbDevice ∈ devices, usbDevice.location = device ∧ ∃ descriptor,
      usbDevice.deviceDescriptor = .ok descriptor ∧ descriptor.vendorId = ids.vidGoxlr ∧
      (descriptor.productId = ids.pidGoxlrFull ∨ descriptor.productId = ids.pidGoxlrMini) ∧
      findDevice (.ok devices) device = .ok (usbDevice, descriptor) ∧
      (AttachGoXLR.fromDevice (.ok devices) device :
          Except AttachError (DeviceDescriptor × GoXLRUSB Command)) =
        match usbDevice.openHandle with
        | .ok () => .ok (descriptor, fromDevice)
        | .error e => .error (.usb e) := by
  rw [findDevices_eq, List.mem_map] at hdevice
  obtain ⟨usbDevice, hmem, rfl⟩ := hdevice
  obtain ⟨hmem, hlists⟩ := List.mem_filter.1 hmem
  cases hd : usbDevice.deviceDescriptor with
  | error e => simp [Ids.lists, hd] at hlists
  | ok descriptor =>
    have hfound : findDevice (.ok devices) usbDevice.location = .ok (usbDevice, descriptor) := by
      rw [findDevice, findSome_findDeviceAt hplaces hmem hd]
    have hgoxlr := (ids.isGoXLR_eq_true descriptor).1 (by simpa [Ids.lists, hd] using hlists)
    refine ⟨usbDevice, hmem, rfl, descriptor, hd, hgoxlr.1, hgoxlr.2, hfound, ?_⟩
    rw [AttachGoXLR.fromDevice, hfound]
    rfl

def testIds : Ids := ⟨1, 2, 3⟩

def miniBus : List UsbDevice :=
  [⟨1, 5, .ok ⟨7, 2⟩, .ok ()⟩, ⟨1, 4, .ok ⟨1, 3⟩, .ok ()⟩]

theorem fromDevice_miniBus :
    (miniBus.map UsbDevice.location).Nodup ∧ ⟨1, 4⟩ ∈ findDevices testIds (.ok miniBus) ∧
      ∃ usbDevice ∈ miniBus, usbDevice.location = ⟨1, 4⟩ ∧ ∃ descriptor,
        usbDevice.deviceDescriptor = .ok descriptor ∧ descriptor.vendorId = testIds.vidGoxlr ∧
        (descriptor.productId = testIds.pidGoxlrFull ∨
          descriptor.productId = testIds.pidGoxlrMini) ∧
        findDevice (.ok miniBus) ⟨1, 4⟩ = .ok (usbDevice, descriptor) ∧
        (AttachGoXLR.fromDevice (.ok miniBus) ⟨1, 4⟩ :
            Except AttachError (DeviceDescriptor × GoXLRUSB Unit)) =
          match usbDevice.openHandle with
          | .ok () => .ok (descriptor, fromDevice)
          | .error e => .error (.usb e) :=
  ⟨by decide, by decide, fromDevice_of_findDevices testIds (by decide) (by decide)⟩

end GoXLR.Usb
