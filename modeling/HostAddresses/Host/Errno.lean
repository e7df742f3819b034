/-!
# Error numbers

The numbers by which the system says why a call has failed, with their names and wording.
-/

namespace HostAddresses.Errno

/-- The name and the wording of an error number. -/
def known? : Int → Option (String × String)
  | 1 => some ("EPERM", "Operation not permitted")
  | 2 => some ("ENOENT", "No such file or directory")
  | 3 => some ("ESRCH", "No such process")
  | 4 => some ("EINTR", "Interrupted system call")
  | 5 => some ("EIO", "I/O error")
  | 6 => some ("ENXIO", "No such device or address")
  | 7 => some ("E2BIG", "Argument list too long")
  | 8 => some ("ENOEXEC", "Exec format error")
  | 9 => some ("EBADF", "Bad file number")
  | 10 => some ("ECHILD", "No child processes")
  | 11 => some ("EAGAIN", "Try again")
  | 12 => some ("ENOMEM", "Out of memory")
  | 13 => some ("EACCES", "Permission denied")
  | 14 => some ("EFAULT", "Bad address")
  | 15 => some ("ENOTBLK", "Block device required")
  | 16 => some ("EBUSY", "Device or resource busy")
  | 17 => some ("EEXIST", "File exists")
  | 18 => some ("EXDEV", "Cross-device link")
  | 19 => some ("ENODEV", "No such device")
  | 20 => some ("ENOTDIR", "Not a directory")
  | 21 => some ("EISDIR", "Is a directory")
  | 22 => some ("EINVAL", "Invalid argument")
  | 23 => some ("ENFILE", "File table overflow")
  | 24 => some ("EMFILE", "Too many open files")
  | 25 => some ("ENOTTY", "Not a typewriter")
  | 26 => some ("ETXTBSY", "Text file busy")
  | 27 => some ("EFBIG", "File too large")
  | 28 => some ("ENOSPC", "No space left on device")
  | 29 => some ("ESPIPE", "Illegal seek")
  | 30 => some ("EROFS", "Read-only file system")
  | 31 => some ("EMLINK", "Too many links")
  | 32 => some ("EPIPE", "Broken pipe")
  | 33 => some ("EDOM", "Math argument out of domain of func")
  | 34 => some ("ERANGE", "Math result not representable")
  | 35 => some ("EDEADLK", "Resource deadlock would occur")
  | 36 => some ("ENAMETOOLONG", "File name too long")
  | 37 => some ("ENOLCK", "No record locks available")
  | 38 => some ("ENOSYS", "Function not implemented")
  | 39 => some ("ENOTEMPTY", "Directory not empty")
  | 40 => some ("ELOOP", "Too many symbolic links encountered")
  | 42 => some ("ENOMSG", "No message of desired type")
  | 43 => some ("EIDRM", "Identifier removed")
  | 44 => some ("ECHRNG", "Channel number out of range")
  | 45 => some ("EL2NSYNC", "Level 2 not synchronized")
  | 46 => some ("EL3HLT", "Level 3 halted")
  | 47 => some ("EL3RST", "Level 3 reset")
  | 48 => some ("ELNRNG", "Link number out of range")
  | 49 => some ("EUNATCH", "Protocol driver not attached")
  | 50 => some ("ENOCSI", "No CSI structure available")
  | 51 => some ("EL2HLT", "Level 2 halted")
  | 52 => some ("EBADE", "Invalid exchange")
  | 53 => some ("EBADR", "Invalid request descriptor")
  | 54 => some ("EXFULL", "Exchange full")
  | 55 => some ("ENOANO", "No anode")
  | 56 => some ("EBADRQC", "Invalid request code")
  | 57 => some ("EBADSLT", "Invalid slot")
  | 59 => some ("EBFONT", "Bad font file format")
  | 60 => some ("ENOSTR", "Device not a stream")
  | 61 => some ("ENODATA", "No data available")
  | 62 => some ("ETIME", "Timer expired")
  | 63 => some ("ENOSR", "Out of streams resources")
  | 64 => some ("ENONET", "Machine is not on the network")
  | 65 => some ("ENOPKG", "Package not installed")
  | 66 => some ("EREMOTE", "Object is remote")
  | 67 => some ("ENOLINK", "Link has been severed")
  | 68 => some ("EADV", "Advertise error")
  | 69 => some ("ESRMNT", "Srmount error")
  | 70 => some ("ECOMM", "Communication error on send")
  | 71 => some ("EPROTO", "Protocol error")
  | 72 => some ("EMULTIHOP", "Multihop attempted")
  | 73 => some ("EDOTDOT", "RFS specific error")
  | 74 => some ("EBADMSG", "Not a data message")
  | 75 => some ("EOVERFLOW", "Value too large for defined data type")
  | 76 => some ("ENOTUNIQ", "Name not unique on network")
  | 77 => some ("EBADFD", "File descriptor in bad state")
  | 78 => some ("EREMCHG", "Remote address changed")
  | 79 => some ("ELIBACC", "Can not access a needed shared library")
  | 80 => some ("ELIBBAD", "Accessing a corrupted shared library")
  | 81 => some ("ELIBSCN", ".lib section in a.out corrupted")
  | 82 => some ("ELIBMAX", "Attempting to link in too many shared libraries")
  | 83 => some ("ELIBEXEC", "Cannot exec a shared library directly")
  | 84 => some ("EILSEQ", "Illegal byte sequence")
  | 85 => some ("ERESTART", "Interrupted system call should be restarted")
  | 86 => some ("ESTRPIPE", "Streams pipe error")
  | 87 => some ("EUSERS", "Too many users")
  | 88 => some ("ENOTSOCK", "Socket operation on non-socket")
  | 89 => some ("EDESTADDRREQ", "Destination address required")
  | 90 => some ("EMSGSIZE", "Message too long")
  | 91 => some ("EPROTOTYPE", "Protocol wrong type for socket")
  | 92 => some ("ENOPROTOOPT", "Protocol not available")
  | 93 => some ("EPROTONOSUPPORT", "Protocol not supported")
  | 94 => some ("ESOCKTNOSUPPORT", "Socket type not supported")
  | 95 => some ("EOPNOTSUPP", "Operation not supported on transport endpoint")
  | 96 => some ("EPFNOSUPPORT", "Protocol family not supported")
  | 97 => some ("EAFNOSUPPORT", "Address family not supported by protocol")
  | 98 => some ("EADDRINUSE", "Address already in use")
  | 99 => some ("EADDRNOTAVAIL", "Cannot assign requested address")
  | 100 => some ("ENETDOWN", "Network is down")
  | 101 => some ("ENETUNREACH", "Network is unreachable")
  | 102 => some ("ENETRESET", "Network dropped connection because of reset")
  | 103 => some ("ECONNABORTED", "Software caused connection abort")
  | 104 => some ("ECONNRESET", "Connection reset by peer")
  | 105 => some ("ENOBUFS", "No buffer space available")
  | 106 => some ("EISCONN", "Transport endpoint is already connected")
  | 107 => some ("ENOTCONN", "Transport endpoint is not connected")
  | 108 => some ("ESHUTDOWN", "Cannot send after transport endpoint shutdown")
  | 109 => some ("ETOOMANYREFS", "Too many references: cannot splice")
  | 110 => some ("ETIMEDOUT", "Connection timed out")
  | 111 => some ("ECONNREFUSED", "Connection refused")
  | 112 => some ("EHOSTDOWN", "Host is down")
  | 113 => some ("EHOSTUNREACH", "No route to host")
  | 114 => some ("EALREADY", "Operation already in progress")
  | 115 => some ("EINPROGRESS", "Operation now in progress")
  | 116 => some ("ESTALE", "Stale file handle")
  | 117 => some ("EUCLEAN", "Structure needs cleaning")
  | 118 => some ("ENOTNAM", "Not a XENIX named type file")
  | 119 => some ("ENAVAIL", "No XENIX semaphores available")
  | 120 => some ("EISNAM", "Is a named type file")
  | 121 => some ("EREMOTEIO", "Remote I/O error")
  | 122 => some ("EDQUOT", "Quota exceeded")
  | 123 => some ("ENOMEDIUM", "No medium found")
  | 124 => some ("EMEDIUMTYPE", "Wrong medium type")
  | 125 => some ("ECANCELED", "Operation canceled")
  | 126 => some ("ENOKEY", "Required key not available")
  | 127 => some ("EKEYEXPIRED", "Key has expired")
  | 128 => some ("EKEYREVOKED", "Key has been revoked")
  | 129 => some ("EKEYREJECTED", "Key was rejected by service")
  | 130 => some ("EOWNERDEAD", "Owner died")
  | 131 => some ("ENOTRECOVERABLE", "State not recoverable")
  | 132 => some ("ERFKILL", "Operation not possible due to RF-kill")
  | 133 => some ("EHWPOISON", "Memory page has hardware error")
  | _ => none

/-- What is said about a failed call. -/
def text (number : Int) : String :=
  let (name, wording) := (known? number).getD ("UnknownErrno", "Unknown errno")
  s!"{name}: {wording}"

end HostAddresses.Errno
