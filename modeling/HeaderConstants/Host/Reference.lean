import HeaderConstants.Host

namespace HeaderConstants

/-- The exports of a module that defines all header values of a family and no others. -/
def Exports.ofSnapshot (family : Family) (category : Category) : Exports :=
  (Snapshot.values family category).map fun (name, value) => (name, .integer value)

def Exports.without (exports : Exports) (names : List String) : Exports :=
  exports.filter fun (name, _) => !names.contains name

namespace Host

/-- The socket constants of the Linux headers that a usual interpreter does not export. -/
def unexported : List String :=
  ["AF_LOCAL", "SO_TIMESTAMP", "SOL_IPV6", "SO_BSDCOMPAT", "SO_RCVBUFFORCE", "SO_SNDBUFFORCE"]

/-- A machine, by the names that it reports, whose modules export what the snapshot of its family
defines, but for the constants that are usually not exported. -/
def ofNames (system release machine : String) : Host where
  system := system
  release := release
  machine := machine
  version := [3, 11, 2]
  exports
    | .errno => .ofSnapshot (.ofSystem system) .errno
    | .socket => (Exports.ofSnapshot (.ofSystem system) .socket).without unexported

/-- A usual machine. -/
def reference : Host := ofNames "Linux" "6.1.0" "x86_64"

end Host

end HeaderConstants
