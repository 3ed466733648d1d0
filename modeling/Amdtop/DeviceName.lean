import Amdtop.DeviceContext
import Amdtop.ScanSet

/-!
# The name of a device

`getDeviceNameFromAmdgpuIDS` looks a device up in the file of AMD's names: lines with `#`, a line
that is read with them, the version, and the entries. In a result, `none` is a name that does not
fit in the buffer of 100 characters.
-/

namespace Amdtop

open Stdio

/-- The file of the names: whether it can be accessed, and what is opened. -/
structure IdsFile where
  access : Bool
  opened : Option File
deriving DecidableEq, Repr

/-- The loop over the lines with `#`. Each pass reads a character. -/
def skipComments : ℕ → File → File
  | 0, fp => fp
  | fuel + 1, fp =>
    match fgets 100 fp with
    | (none, fp) => fp
    | (some buf, fp) => if buf.head? = some '#' then skipComments fuel fp else fp

/-- What the set of the names lets pass: it has the quote twice. -/
def inName (c : Char) : Bool := c ≠ ',' && c ≠ '\'' && c ≠ '\n'

/-- The loop over the entries. Each pass reads a character. -/
def searchIds (device : Device) (name : List Char) : ℕ → File → Option (ℤ × List Char)
  | 0, _ => some (-einval, name)
  | fuel + 1, fp =>
    if fp.eof then some (-einval, name)
    else
      let (r, fp) := fscanfSet fp "%4x, %x, " inName
      if r.count ≠ 3 then some (-einval, name)
      else
        let did := numAt r.vals 0 0
        let rid := numAt r.vals 1 0
        let buf := strAt r.vals 2 []
        if 100 ≤ buf.length then none
        else if did = device.deviceId ∧ rid = device.revisionId then some (0, buf)
        else searchIds device name fuel fp

def getDeviceNameFromAmdgpuIDS (ids : IdsFile) (device : Device) (name : List Char) :
    Option (ℤ × List Char) :=
  if device.vendorId ≠ 0x1002 then some (-einval, name)
  else if !ids.access then some (-einval, name)
  else match ids.opened with
    | none => some (-einval, name)
    | some fp =>
      let fp := skipComments (fp.rest.length + 1) fp
      let (r, fp) := fscanf fp "%d.%d.%d\n"
      if r.count ≠ 3 then some (-einval, name)
      else searchIds device name (fp.rest.length + 1) fp

/-- `"unknow device %08x:%08x.%02d"`. -/
def unknowDevice (device : Device) : List Char :=
  "unknow device ".toList ++ hexPad 8 device.vendorId.toNat ++ ':' :: hexPad 8 device.deviceId.toNat
    ++ '.' :: List.leftpad 2 '0' (decimalInt device.revisionId)

/-- `pciName` is the name the PCI library has. -/
def DeviceGetDeviceName (ids : IdsFile) (pciName : Option (List Char)) (device : Device)
    (deviceName : List Char) : Option (List Char) :=
  match getDeviceNameFromAmdgpuIDS ids device deviceName with
  | none => none
  | some (ret, name) => some (if ret ≠ 0 then pciName.getD (unknowDevice device) else name)

end Amdtop
