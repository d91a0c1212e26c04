/-!
# Kinds of system errors

A coarse classification of system errors; an error that fits nowhere is `uncategorized`.
-/

namespace TunTap

inductive ErrorKind where
  | notFound | permissionDenied | connectionRefused | connectionReset | hostUnreachable | networkUnreachable
  | connectionAborted | notConnected | addrInUse | addrNotAvailable | networkDown | brokenPipe | alreadyExists
  | wouldBlock | notADirectory | isADirectory | directoryNotEmpty | readOnlyFilesystem | filesystemLoop
  | staleNetworkFileHandle | invalidInput | invalidData | timedOut | writeZero | storageFull | notSeekable
  | quotaExceeded | fileTooLarge | resourceBusy | executableFileBusy | deadlock | crossesDevices | tooManyLinks
  | tooManyOpenFiles | invalidFilename | argumentListTooLong | interrupted | unsupported | unexpectedEof
  | outOfMemory | inProgress | inputOutputError | other | uncategorized
deriving DecidableEq

namespace ErrorKind

/-- Every kind. -/
def all : List ErrorKind :=
  [.notFound, .permissionDenied, .connectionRefused, .connectionReset, .hostUnreachable, .networkUnreachable,
    .connectionAborted, .notConnected, .addrInUse, .addrNotAvailable, .networkDown, .brokenPipe, .alreadyExists,
    .wouldBlock, .notADirectory, .isADirectory, .directoryNotEmpty, .readOnlyFilesystem, .filesystemLoop,
    .staleNetworkFileHandle, .invalidInput, .invalidData, .timedOut, .writeZero, .storageFull, .notSeekable,
    .quotaExceeded, .fileTooLarge, .resourceBusy, .executableFileBusy, .deadlock, .crossesDevices,
    .tooManyLinks, .tooManyOpenFiles, .invalidFilename, .argumentListTooLong, .interrupted, .unsupported,
    .unexpectedEof, .outOfMemory, .inProgress, .inputOutputError, .other, .uncategorized]

/-- The name of a kind. -/
def name : ErrorKind → String
  | .notFound => "NotFound"
  | .permissionDenied => "PermissionDenied"
  | .connectionRefused => "ConnectionRefused"
  | .connectionReset => "ConnectionReset"
  | .hostUnreachable => "HostUnreachable"
  | .networkUnreachable => "NetworkUnreachable"
  | .connectionAborted => "ConnectionAborted"
  | .notConnected => "NotConnected"
  | .addrInUse => "AddrInUse"
  | .addrNotAvailable => "AddrNotAvailable"
  | .networkDown => "NetworkDown"
  | .brokenPipe => "BrokenPipe"
  | .alreadyExists => "AlreadyExists"
  | .wouldBlock => "WouldBlock"
  | .notADirectory => "NotADirectory"
  | .isADirectory => "IsADirectory"
  | .directoryNotEmpty => "DirectoryNotEmpty"
  | .readOnlyFilesystem => "ReadOnlyFilesystem"
  | .filesystemLoop => "FilesystemLoop"
  | .staleNetworkFileHandle => "StaleNetworkFileHandle"
  | .invalidInput => "InvalidInput"
  | .invalidData => "InvalidData"
  | .timedOut => "TimedOut"
  | .writeZero => "WriteZero"
  | .storageFull => "StorageFull"
  | .notSeekable => "NotSeekable"
  | .quotaExceeded => "QuotaExceeded"
  | .fileTooLarge => "FileTooLarge"
  | .resourceBusy => "ResourceBusy"
  | .executableFileBusy => "ExecutableFileBusy"
  | .deadlock => "Deadlock"
  | .crossesDevices => "CrossesDevices"
  | .tooManyLinks => "TooManyLinks"
  | .tooManyOpenFiles => "TooManyOpenFiles"
  | .invalidFilename => "InvalidFilename"
  | .argumentListTooLong => "ArgumentListTooLong"
  | .interrupted => "Interrupted"
  | .unsupported => "Unsupported"
  | .unexpectedEof => "UnexpectedEof"
  | .outOfMemory => "OutOfMemory"
  | .inProgress => "InProgress"
  | .inputOutputError => "InputOutputError"
  | .other => "Other"
  | .uncategorized => "Uncategorized"

end ErrorKind

end TunTap
