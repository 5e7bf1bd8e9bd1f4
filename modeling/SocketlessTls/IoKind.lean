/-!
# Kinds of byte-stream errors

The kinds of error that a byte stream may report, each with a name and a text. Those that only files
have are among them: whoever makes a byte stream chooses the kinds of its errors.
-/

namespace SocketlessTls

/-- A kind of byte-stream error. -/
inductive IoKind where
  | wouldBlock
  | notFound
  | permissionDenied
  | connectionRefused
  | connectionReset
  | hostUnreachable
  | networkUnreachable
  | connectionAborted
  | notConnected
  | addrInUse
  | addrNotAvailable
  | networkDown
  | brokenPipe
  | alreadyExists
  | notADirectory
  | isADirectory
  | directoryNotEmpty
  | readOnlyFilesystem
  | filesystemLoop
  | staleNetworkFileHandle
  | invalidInput
  | invalidData
  | timedOut
  | writeZero
  | storageFull
  | notSeekable
  | quotaExceeded
  | fileTooLarge
  | resourceBusy
  | executableFileBusy
  | deadlock
  | crossesDevices
  | tooManyLinks
  | invalidFilename
  | argumentListTooLong
  | interrupted
  | unsupported
  | unexpectedEof
  | outOfMemory
  | inProgress
  | other
  | uncategorized
  deriving Repr, DecidableEq

namespace IoKind

/-- Every kind with its name and its text. -/
def table : List (IoKind × String × String) :=
  [(wouldBlock, "WouldBlock", "operation would block"),
   (notFound, "NotFound", "entity not found"),
   (permissionDenied, "PermissionDenied", "permission denied"),
   (connectionRefused, "ConnectionRefused", "connection refused"),
   (connectionReset, "ConnectionReset", "connection reset"),
   (hostUnreachable, "HostUnreachable", "host unreachable"),
   (networkUnreachable, "NetworkUnreachable", "network unreachable"),
   (connectionAborted, "ConnectionAborted", "connection aborted"),
   (notConnected, "NotConnected", "not connected"),
   (addrInUse, "AddrInUse", "address in use"),
   (addrNotAvailable, "AddrNotAvailable", "address not available"),
   (networkDown, "NetworkDown", "network down"),
   (brokenPipe, "BrokenPipe", "broken pipe"),
   (alreadyExists, "AlreadyExists", "entity already exists"),
   (notADirectory, "NotADirectory", "not a directory"),
   (isADirectory, "IsADirectory", "is a directory"),
   (directoryNotEmpty, "DirectoryNotEmpty", "directory not empty"),
   (readOnlyFilesystem, "ReadOnlyFilesystem", "read-only filesystem or storage medium"),
   (filesystemLoop, "FilesystemLoop", "filesystem loop or indirection limit (e.g. symlink loop)"),
   (staleNetworkFileHandle, "StaleNetworkFileHandle", "stale network file handle"),
   (invalidInput, "InvalidInput", "invalid input parameter"),
   (invalidData, "InvalidData", "invalid data"),
   (timedOut, "TimedOut", "timed out"),
   (writeZero, "WriteZero", "write zero"),
   (storageFull, "StorageFull", "no storage space"),
   (notSeekable, "NotSeekable", "seek on unseekable file"),
   (quotaExceeded, "QuotaExceeded", "quota exceeded"),
   (fileTooLarge, "FileTooLarge", "file too large"),
   (resourceBusy, "ResourceBusy", "resource busy"),
   (executableFileBusy, "ExecutableFileBusy", "executable file busy"),
   (deadlock, "Deadlock", "deadlock"),
   (crossesDevices, "CrossesDevices", "cross-device link or rename"),
   (tooManyLinks, "TooManyLinks", "too many links"),
   (invalidFilename, "InvalidFilename", "invalid filename"),
   (argumentListTooLong, "ArgumentListTooLong", "argument list too long"),
   (interrupted, "Interrupted", "operation interrupted"),
   (unsupported, "Unsupported", "unsupported"),
   (unexpectedEof, "UnexpectedEof", "unexpected end of file"),
   (outOfMemory, "OutOfMemory", "out of memory"),
   (inProgress, "InProgress", "in progress"),
   (other, "Other", "other error"),
   (uncategorized, "Uncategorized", "uncategorized error")]

/-- The name of a kind. -/
def name (k : IoKind) : String := ((table.lookup k).map (·.1)).getD ""

/-- The text of a kind. -/
def text (k : IoKind) : String := ((table.lookup k).map (·.2)).getD ""

/-- The kind of a name. -/
def ofName? (s : String) : Option IoKind := (table.find? (·.2.1 == s)).map (·.1)

end IoKind

end SocketlessTls
