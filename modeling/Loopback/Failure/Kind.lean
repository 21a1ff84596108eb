import Loopback.Named

/-!
# Kinds of input and output failures

The kinds by which failures of files, streams and devices are told apart.
-/

namespace Loopback

/-- What kind of failure an input or output operation met. -/
inductive FailureKind where
  | notFound
  | permissionDenied
  | connectionRefused
  | connectionReset
  | hostUnreachable
  | networkUnreachable
  | connectionAborted
  | notConnected
  | addrInUse
  | addrNotAvailable
  | networkDown
  | brokenPipe
  | alreadyExists
  | wouldBlock
  | notADirectory
  | isADirectory
  | directoryNotEmpty
  | readOnlyFilesystem
  | filesystemLoop
  | staleNetworkFileHandle
  | invalidInput
  | invalidData
  | timedOut
  | writeZero
  | storageFull
  | notSeekable
  | quotaExceeded
  | fileTooLarge
  | resourceBusy
  | executableFileBusy
  | deadlock
  | crossesDevices
  | tooManyLinks
  | invalidFilename
  | argumentListTooLong
  | interrupted
  | unsupported
  | unexpectedEof
  | outOfMemory
  | inProgress
  | inputOutputError
  | tooManyOpenFiles
  | other
  | uncategorized
deriving DecidableEq, Repr

instance : Named FailureKind where
  all :=
    [.notFound, .permissionDenied, .connectionRefused, .connectionReset, .hostUnreachable,
     .networkUnreachable, .connectionAborted, .notConnected, .addrInUse, .addrNotAvailable,
     .networkDown, .brokenPipe, .alreadyExists, .wouldBlock, .notADirectory, .isADirectory,
     .directoryNotEmpty, .readOnlyFilesystem, .filesystemLoop, .staleNetworkFileHandle,
     .invalidInput, .invalidData, .timedOut, .writeZero, .storageFull, .notSeekable,
     .quotaExceeded, .fileTooLarge, .resourceBusy, .executableFileBusy, .deadlock,
     .crossesDevices, .tooManyLinks, .invalidFilename, .argumentListTooLong, .interrupted,
     .unsupported, .unexpectedEof, .outOfMemory, .inProgress, .inputOutputError,
     .tooManyOpenFiles, .other, .uncategorized]
  name
    | .notFound => "NotFound"
    | .permissionDenied => "PermissionDenied"
    | .connectionRefused => "ConnectionRefused"
    | .connectionReset => "ConnectionReset"
    | .hostUnreachable => "HostUnreachable"
    | .networkUnreachable => "NetworkUnreachable"
    | .connectionAborted => "ConnectionAborted"
    | .notConnected => "NotConnected"
    | .addrInUse => "AddrInUse"
    | .addrNotAvailable => "AddrNotAvailable"
    | .networkDown => "NetworkDown"
    | .brokenPipe => "BrokenPipe"
    | .alreadyExists => "AlreadyExists"
    | .wouldBlock => "WouldBlock"
    | .notADirectory => "NotADirectory"
    | .isADirectory => "IsADirectory"
    | .directoryNotEmpty => "DirectoryNotEmpty"
    | .readOnlyFilesystem => "ReadOnlyFilesystem"
    | .filesystemLoop => "FilesystemLoop"
    | .staleNetworkFileHandle => "StaleNetworkFileHandle"
    | .invalidInput => "InvalidInput"
    | .invalidData => "InvalidData"
    | .timedOut => "TimedOut"
    | .writeZero => "WriteZero"
    | .storageFull => "StorageFull"
    | .notSeekable => "NotSeekable"
    | .quotaExceeded => "QuotaExceeded"
    | .fileTooLarge => "FileTooLarge"
    | .resourceBusy => "ResourceBusy"
    | .executableFileBusy => "ExecutableFileBusy"
    | .deadlock => "Deadlock"
    | .crossesDevices => "CrossesDevices"
    | .tooManyLinks => "TooManyLinks"
    | .invalidFilename => "InvalidFilename"
    | .argumentListTooLong => "ArgumentListTooLong"
    | .interrupted => "Interrupted"
    | .unsupported => "Unsupported"
    | .unexpectedEof => "UnexpectedEof"
    | .outOfMemory => "OutOfMemory"
    | .inProgress => "InProgress"
    | .inputOutputError => "InputOutputError"
    | .tooManyOpenFiles => "TooManyOpenFiles"
    | .other => "Other"
    | .uncategorized => "Uncategorized"

end Loopback
