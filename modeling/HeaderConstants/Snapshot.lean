import HeaderConstants.Family.Recognition
import HeaderConstants.Snapshot.Darwin
import HeaderConstants.Snapshot.Linux

/-!
The header values that come with the library, and the machines they are valid for.
-/

namespace HeaderConstants.Snapshot

/-- The header values of a family by name. -/
def values : Family → Category → List (String × Int)
  | .linux, .errno => linuxErrno
  | .linux, .socket => linuxSocket
  | .darwin, .errno => darwinErrno
  | .darwin, .socket => darwinSocket
  | .generic, _ => []

/-- Whether there is a snapshot of a family. -/
def isAvailable : Family → Bool
  | .generic => false
  | _ => true

/-- The machines, by the name they report, whose headers have the values of the snapshot. Others
number some errors or socket options differently. -/
def machines : Family → List String
  | .linux =>
    ["x86_64", "amd64", "i386", "i486", "i586", "i686", "aarch64", "arm64", "armv6l", "armv7l",
     "armv8l", "riscv64", "loongarch64"]
  | .darwin => ["x86_64", "arm64"]
  | .generic => []

/-- Whether the snapshot holds for a machine, by the name that it reports. -/
def covers (family : Family) (machine : String) : Bool :=
  (machines family).contains (Text.plainWord machine)

end HeaderConstants.Snapshot
