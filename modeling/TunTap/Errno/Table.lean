import TunTap.Errno.Kind

/-!
# The numbered errors of the system

One row for every error number that has a name, in ascending order: 41 and 58 are not in use, and 133 is the last.
The text that belongs to the name and the text that the system itself gives for the number differ in some rows.
-/

namespace TunTap.Errno

/-- What is known of an error number. -/
structure Row where
  number : Int32
  name : String
  /-- The text that goes with the name. -/
  text : String
  kind : ErrorKind
  /-- The text that the system gives for the number. -/
  systemText : String

/-- A row; most errors have no kind of their own, and most have one text. -/
def row (number : Int32) (name text : String) (kind : ErrorKind := .uncategorized) (systemText : String := text) :
    Row where
  number := number
  name := name
  text := text
  kind := kind
  systemText := systemText

def rows : List Row :=
  [row 1 "EPERM" "Operation not permitted" .permissionDenied,
    row 2 "ENOENT" "No such file or directory" .notFound,
    row 3 "ESRCH" "No such process",
    row 4 "EINTR" "Interrupted system call" .interrupted,
    row 5 "EIO" "I/O error" .inputOutputError "Input/output error",
    row 6 "ENXIO" "No such device or address",
    row 7 "E2BIG" "Argument list too long" .argumentListTooLong,
    row 8 "ENOEXEC" "Exec format error",
    row 9 "EBADF" "Bad file number" .uncategorized "Bad file descriptor",
    row 10 "ECHILD" "No child processes",
    row 11 "EAGAIN" "Try again" .wouldBlock "Resource temporarily unavailable",
    row 12 "ENOMEM" "Out of memory" .outOfMemory "Cannot allocate memory",
    row 13 "EACCES" "Permission denied" .permissionDenied,
    row 14 "EFAULT" "Bad address",
    row 15 "ENOTBLK" "Block device required",
    row 16 "EBUSY" "Device or resource busy" .resourceBusy,
    row 17 "EEXIST" "File exists" .alreadyExists,
    row 18 "EXDEV" "Cross-device link" .crossesDevices "Invalid cross-device link",
    row 19 "ENODEV" "No such device",
    row 20 "ENOTDIR" "Not a directory" .notADirectory,
    row 21 "EISDIR" "Is a directory" .isADirectory,
    row 22 "EINVAL" "Invalid argument" .invalidInput,
    row 23 "ENFILE" "File table overflow" .tooManyOpenFiles "Too many open files in system",
    row 24 "EMFILE" "Too many open files" .tooManyOpenFiles,
    row 25 "ENOTTY" "Not a typewriter" .uncategorized "Inappropriate ioctl for device",
    row 26 "ETXTBSY" "Text file busy" .executableFileBusy,
    row 27 "EFBIG" "File too large" .fileTooLarge,
    row 28 "ENOSPC" "No space left on device" .storageFull,
    row 29 "ESPIPE" "Illegal seek" .notSeekable,
    row 30 "EROFS" "Read-only file system" .readOnlyFilesystem,
    row 31 "EMLINK" "Too many links" .tooManyLinks,
    row 32 "EPIPE" "Broken pipe" .brokenPipe,
    row 33 "EDOM" "Math argument out of domain of func" .uncategorized "Numerical argument out of domain",
    row 34 "ERANGE" "Math result not representable" .uncategorized "Numerical result out of range",
    row 35 "EDEADLK" "Resource deadlock would occur" .deadlock "Resource deadlock avoided",
    row 36 "ENAMETOOLONG" "File name too long" .invalidFilename,
    row 37 "ENOLCK" "No record locks available" .uncategorized "No locks available",
    row 38 "ENOSYS" "Function not implemented" .unsupported,
    row 39 "ENOTEMPTY" "Directory not empty" .directoryNotEmpty,
    row 40 "ELOOP" "Too many symbolic links encountered" .filesystemLoop "Too many levels of symbolic links",
    row 42 "ENOMSG" "No message of desired type",
    row 43 "EIDRM" "Identifier removed",
    row 44 "ECHRNG" "Channel number out of range",
    row 45 "EL2NSYNC" "Level 2 not synchronized",
    row 46 "EL3HLT" "Level 3 halted",
    row 47 "EL3RST" "Level 3 reset",
    row 48 "ELNRNG" "Link number out of range",
    row 49 "EUNATCH" "Protocol driver not attached",
    row 50 "ENOCSI" "No CSI structure available",
    row 51 "EL2HLT" "Level 2 halted",
    row 52 "EBADE" "Invalid exchange",
    row 53 "EBADR" "Invalid request descriptor",
    row 54 "EXFULL" "Exchange full",
    row 55 "ENOANO" "No anode",
    row 56 "EBADRQC" "Invalid request code",
    row 57 "EBADSLT" "Invalid slot",
    row 59 "EBFONT" "Bad font file format",
    row 60 "ENOSTR" "Device not a stream",
    row 61 "ENODATA" "No data available",
    row 62 "ETIME" "Timer expired",
    row 63 "ENOSR" "Out of streams resources",
    row 64 "ENONET" "Machine is not on the network",
    row 65 "ENOPKG" "Package not installed",
    row 66 "EREMOTE" "Object is remote",
    row 67 "ENOLINK" "Link has been severed",
    row 68 "EADV" "Advertise error",
    row 69 "ESRMNT" "Srmount error",
    row 70 "ECOMM" "Communication error on send",
    row 71 "EPROTO" "Protocol error",
    row 72 "EMULTIHOP" "Multihop attempted",
    row 73 "EDOTDOT" "RFS specific error",
    row 74 "EBADMSG" "Not a data message" .uncategorized "Bad message",
    row 75 "EOVERFLOW" "Value too large for defined data type",
    row 76 "ENOTUNIQ" "Name not unique on network",
    row 77 "EBADFD" "File descriptor in bad state",
    row 78 "EREMCHG" "Remote address changed",
    row 79 "ELIBACC" "Can not access a needed shared library",
    row 80 "ELIBBAD" "Accessing a corrupted shared library",
    row 81 "ELIBSCN" ".lib section in a.out corrupted",
    row 82 "ELIBMAX" "Attempting to link in too many shared libraries",
    row 83 "ELIBEXEC" "Cannot exec a shared library directly",
    row 84 "EILSEQ" "Illegal byte sequence" .uncategorized "Invalid or incomplete multibyte or wide character",
    row 85 "ERESTART" "Interrupted system call should be restarted",
    row 86 "ESTRPIPE" "Streams pipe error",
    row 87 "EUSERS" "Too many users",
    row 88 "ENOTSOCK" "Socket operation on non-socket",
    row 89 "EDESTADDRREQ" "Destination address required",
    row 90 "EMSGSIZE" "Message too long",
    row 91 "EPROTOTYPE" "Protocol wrong type for socket",
    row 92 "ENOPROTOOPT" "Protocol not available",
    row 93 "EPROTONOSUPPORT" "Protocol not supported",
    row 94 "ESOCKTNOSUPPORT" "Socket type not supported",
    row 95 "EOPNOTSUPP" "Operation not supported on transport endpoint" .unsupported "Operation not supported",
    row 96 "EPFNOSUPPORT" "Protocol family not supported",
    row 97 "EAFNOSUPPORT" "Address family not supported by protocol",
    row 98 "EADDRINUSE" "Address already in use" .addrInUse,
    row 99 "EADDRNOTAVAIL" "Cannot assign requested address" .addrNotAvailable,
    row 100 "ENETDOWN" "Network is down" .networkDown,
    row 101 "ENETUNREACH" "Network is unreachable" .networkUnreachable,
    row 102 "ENETRESET" "Network dropped connection because of reset" .uncategorized "Network dropped connection on reset",
    row 103 "ECONNABORTED" "Software caused connection abort" .connectionAborted,
    row 104 "ECONNRESET" "Connection reset by peer" .connectionReset,
    row 105 "ENOBUFS" "No buffer space available",
    row 106 "EISCONN" "Transport endpoint is already connected",
    row 107 "ENOTCONN" "Transport endpoint is not connected" .notConnected,
    row 108 "ESHUTDOWN" "Cannot send after transport endpoint shutdown",
    row 109 "ETOOMANYREFS" "Too many references: cannot splice",
    row 110 "ETIMEDOUT" "Connection timed out" .timedOut,
    row 111 "ECONNREFUSED" "Connection refused" .connectionRefused,
    row 112 "EHOSTDOWN" "Host is down",
    row 113 "EHOSTUNREACH" "No route to host" .hostUnreachable,
    row 114 "EALREADY" "Operation already in progress",
    row 115 "EINPROGRESS" "Operation now in progress" .inProgress,
    row 116 "ESTALE" "Stale file handle" .staleNetworkFileHandle,
    row 117 "EUCLEAN" "Structure needs cleaning",
    row 118 "ENOTNAM" "Not a XENIX named type file",
    row 119 "ENAVAIL" "No XENIX semaphores available",
    row 120 "EISNAM" "Is a named type file",
    row 121 "EREMOTEIO" "Remote I/O error",
    row 122 "EDQUOT" "Quota exceeded" .quotaExceeded "Disk quota exceeded",
    row 123 "ENOMEDIUM" "No medium found",
    row 124 "EMEDIUMTYPE" "Wrong medium type",
    row 125 "ECANCELED" "Operation canceled",
    row 126 "ENOKEY" "Required key not available",
    row 127 "EKEYEXPIRED" "Key has expired",
    row 128 "EKEYREVOKED" "Key has been revoked",
    row 129 "EKEYREJECTED" "Key was rejected by service",
    row 130 "EOWNERDEAD" "Owner died",
    row 131 "ENOTRECOVERABLE" "State not recoverable",
    row 132 "ERFKILL" "Operation not possible due to RF-kill",
    row 133 "EHWPOISON" "Memory page has hardware error"]

/-- The row of an error number, if it has one. -/
def row? (number : Int32) : Option Row := rows.find? (·.number == number)

example : rows.length = 131 := rfl
example : rows.Pairwise fun r s => r.number < s.number := by decide +kernel

end TunTap.Errno
