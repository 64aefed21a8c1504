import IniSettings.Schema

/-!
# The settings of a device

The schema that the command line works on.
-/

namespace IniSettings.Device

def hostname : FieldSpec where
  id := "Hostname"
  member := "hostname"
  name := ⟨some "@net:device", "hostname", by decide⟩
  access := .readWrite
  type := .bounded 32
  initial := BoundedText.truncated "inistore"

def port : FieldSpec where
  id := "Port"
  member := "port"
  name := ⟨some "@net:device", "port", by decide⟩
  access := .readWrite
  type := .unsigned .bits16
  initial := Fin.mk 8080 (by decide)

def dhcp : FieldSpec where
  id := "Dhcp"
  member := "dhcp"
  name := ⟨some "@net:device", "dhcp", by decide⟩
  access := .readWrite
  type := .bool
  initial := true

def mtu : FieldSpec where
  id := "Mtu"
  member := "mtu"
  name := ⟨some "@net:device", "mtu", by decide⟩
  access := .readWrite
  type := .unsigned .bits32
  initial := Fin.mk 1500 (by decide)

/-- The serial number is set in the factory, so only the file can change it. -/
def serial : FieldSpec where
  id := "Serial"
  member := "serial"
  name := ⟨some "@sys:device", "serial", by decide⟩
  access := .readOnly
  type := .text
  initial := "UNSET"

def schema : Schema where
  record := "DeviceSettings"
  title := "device"
  specs := [hostname, port, dhcp, mtu, serial]

end IniSettings.Device
