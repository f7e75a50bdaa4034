import FileConduit.Path.Remote

/-!
# Names on the host

A name that comes from the device is made safe before a file of the host is given it.  What
remains is a single component: not empty, no separator in it, and no step upwards.  The
Windows rules replace more characters, allow no dot or space at the end, and keep clear of the
names of devices.
-/

namespace FileConduit

inductive NamingStyle where
  /-- The rules of the host that runs the client, which are the POSIX rules. -/
  | native
  | posix
  | windows
  deriving DecidableEq, Repr, Inhabited

namespace HostName

def stem (name : List Char) : List Char :=
  name.takeWhile (· != '.')

/-- Names that stand for devices in the Windows style, in lower case. -/
def deviceNames : List String :=
  ["con", "prn", "aux", "nul", "com1", "com2", "com3", "com4", "com5", "com6", "com7", "com8",
    "com9", "lpt1", "lpt2", "lpt3", "lpt4", "lpt5", "lpt6", "lpt7", "lpt8", "lpt9"]

/-- Whether a name stands for a device, whatever follows its first dot. -/
def namesDevice (name : List Char) : Bool :=
  deviceNames.any fun device => device.toList == (stem name).map Char.toLower

def isSeparator (c : Char) : Bool :=
  c == '/' || c == '\x00'

def isForbidden (c : Char) : Bool :=
  c == '<' || c == '>' || c == ':' || c == '"' || c == '/' || c == '\\' || c == '|' ||
    c == '?' || c == '*' || c.toNat < 0x20

def replace (test : Char → Bool) (name : List Char) : List Char :=
  name.map fun c => if test c then '_' else c

/-- Characters that end no name in the Windows style. -/
def isWeakEnd (c : Char) : Bool :=
  c == '.' || c == ' '

def trimEnd (name : List Char) : List Char :=
  (name.reverse.dropWhile isWeakEnd).reverse

def sanitizeWindows (name : List Char) : List Char :=
  match trimEnd (replace isForbidden name) with
  | [] => ['_']
  | trimmed => if namesDevice trimmed then '_' :: trimmed else trimmed

/-- Makes a name from the device safe to create on the host. -/
def sanitize (style : NamingStyle) (name : String) : String :=
  if RemotePath.isTraversal name then "_"
  else
    match style with
    | .windows => String.ofList (sanitizeWindows name.toList)
    | .native | .posix => String.ofList (replace isSeparator name.toList)

end HostName

end FileConduit
