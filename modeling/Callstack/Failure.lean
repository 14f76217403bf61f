/-!
# Failures

Why a backend cannot work. A failure has a message, and some failures have a source, whose text is
part of it.
-/

namespace Callstack

/-- What the operating system or a reader says about a failed access. -/
inductive AccessFault where
  /-- An error of the operating system, by its number. -/
  | system (number : Nat)
  /-- Any other fault, by its text. -/
  | other (text : String)
  deriving DecidableEq, Repr

namespace AccessFault

/-- The descriptions of the numbered errors of the operating system, from number 1 on. -/
def descriptions : List String :=
  ["Operation not permitted", "No such file or directory", "No such process",
   "Interrupted system call", "Input/output error", "No such device or address",
   "Argument list too long", "Exec format error", "Bad file descriptor", "No child processes",
   "Resource temporarily unavailable", "Cannot allocate memory", "Permission denied",
   "Bad address", "Block device required", "Device or resource busy", "File exists",
   "Invalid cross-device link", "No such device", "Not a directory", "Is a directory",
   "Invalid argument", "Too many open files in system", "Too many open files",
   "Inappropriate ioctl for device", "Text file busy", "File too large",
   "No space left on device", "Illegal seek", "Read-only file system", "Too many links",
   "Broken pipe", "Numerical argument out of domain", "Numerical result out of range",
   "Resource deadlock avoided", "File name too long", "No locks available",
   "Function not implemented", "Directory not empty", "Too many levels of symbolic links"]

/-- The error for a file that does not exist. -/
def noSuchFile : AccessFault := .system 2

/-- The error for a full device. -/
def noSpace : AccessFault := .system 28

/-- The error for a pipe without a reader. -/
def brokenPipe : AccessFault := .system 32

/-- The wording of a fault. -/
def message : AccessFault → String
  | .system number =>
    let description :=
      match number with
      | 0 => "Success"
      | n + 1 => descriptions[n]?.getD ("Unknown error " ++ toString number)
    description ++ " (os error " ++ toString number ++ ")"
  | .other text => text

end AccessFault

/-- Why a backend cannot work. -/
inductive Failure where
  | executableNotFound (source : AccessFault)
  | readFailed (path : String) (source : AccessFault)
  | parseFailed (path reason : String)
  | debugInfoLoadFailed (reason : String)
  | executableNotMapped (path : String)
  | memoryMapsUnavailable (source : AccessFault)
  | debugHelperUnavailable (reason : String)
  deriving DecidableEq, Repr

namespace Failure

/-- The wording of a failure. -/
def message : Failure → String
  | executableNotFound source => "Failed to locate the running executable: " ++ source.message
  | readFailed path source => "Failed to read " ++ path ++ ": " ++ source.message
  | parseFailed path reason => "Failed to parse object file " ++ path ++ ": " ++ reason
  | debugInfoLoadFailed reason => "Failed to load DWARF debug information: " ++ reason
  | executableNotMapped path => "Executable " ++ path ++ " is not mapped into this process"
  | memoryMapsUnavailable source => "Failed to read /proc/self/maps: " ++ source.message
  | debugHelperUnavailable reason => "Debug helper initialization failed: " ++ reason

/-- The fault behind a failure. -/
def source? : Failure → Option AccessFault
  | executableNotFound source => some source
  | readFailed _ source => some source
  | memoryMapsUnavailable source => some source
  | _ => none

end Failure

end Callstack
