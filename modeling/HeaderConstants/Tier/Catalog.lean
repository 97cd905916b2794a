import HeaderConstants.Tier

namespace HeaderConstants.Tier

/-- The error numbers that every system defines. -/
def commonErrno : Tier where
  name := "common-errno"
  family := none
  category := .errno
  names :=
    ["EPERM", "ENOENT", "ESRCH", "EINTR", "EIO", "ENXIO", "E2BIG", "ENOEXEC", "EBADF", "ECHILD",
     "EAGAIN", "ENOMEM", "EACCES", "EFAULT", "ENOTBLK", "EBUSY", "EEXIST", "EXDEV", "ENODEV",
     "ENOTDIR", "EISDIR", "EINVAL", "ENFILE", "EMFILE", "ENOTTY", "ETXTBSY", "EFBIG", "ENOSPC",
     "ESPIPE", "EROFS", "EMLINK", "EPIPE", "EDOM", "ERANGE", "EDEADLK", "ENAMETOOLONG", "ENOLCK",
     "ENOSYS", "ENOTEMPTY", "ELOOP", "ENOMSG", "EIDRM", "EINPROGRESS", "EALREADY", "ENOTSOCK",
     "EDESTADDRREQ", "EMSGSIZE", "EPROTOTYPE", "ENOPROTOOPT", "EPROTONOSUPPORT",
     "ESOCKTNOSUPPORT", "EPFNOSUPPORT", "EAFNOSUPPORT", "EADDRINUSE", "EADDRNOTAVAIL", "ENETDOWN",
     "ENETUNREACH", "ENETRESET", "ECONNABORTED", "ECONNRESET", "ENOBUFS", "EISCONN", "ENOTCONN",
     "ESHUTDOWN", "ETOOMANYREFS", "ETIMEDOUT", "ECONNREFUSED", "EHOSTDOWN", "EHOSTUNREACH"]

/-- Errors of streams, networking and key management. -/
def linuxErrno : Tier where
  name := "linux-errno"
  family := some .linux
  category := .errno
  names :=
    ["ECHRNG", "EL2NSYNC", "EL3HLT", "EL3RST", "ELNRNG", "EUNATCH", "ENOCSI", "EL2HLT", "EBADE",
     "EBADR", "EXFULL", "ENOANO", "EBADRQC", "EBADSLT", "EBFONT", "ENOSTR", "ENODATA", "ETIME",
     "ENOSR", "ENONET", "ENOPKG", "EREMOTE", "ENOLINK", "EADV", "ESRMNT", "ECOMM", "EPROTO",
     "EMULTIHOP", "EDOTDOT", "EBADMSG", "EOVERFLOW", "ENOTUNIQ", "EBADFD", "EREMCHG", "ELIBACC",
     "ELIBBAD", "ELIBSCN", "ELIBMAX", "ELIBEXEC", "EILSEQ", "ERESTART", "ESTRPIPE", "EUSERS",
     "EOPNOTSUPP", "ESTALE", "EUCLEAN", "ENOTNAM", "ENAVAIL", "EISNAM", "EREMOTEIO", "EDQUOT",
     "ENOMEDIUM", "EMEDIUMTYPE", "ECANCELED", "ENOKEY", "EKEYEXPIRED", "EKEYREVOKED",
     "EKEYREJECTED", "EOWNERDEAD", "ENOTRECOVERABLE", "ERFKILL"]

/-- Errors of remote procedure calls, executables and devices. -/
def darwinErrno : Tier where
  name := "darwin-errno"
  family := some .darwin
  category := .errno
  names :=
    ["ENOTSUP", "EPROCLIM", "EUSERS", "EDQUOT", "ESTALE", "EREMOTE", "EBADRPC", "ERPCMISMATCH",
     "EPROGUNAVAIL", "EPROGMISMATCH", "EPROCUNAVAIL", "EFTYPE", "EAUTH", "ENEEDAUTH", "EPWROFF",
     "EDEVERR", "EOVERFLOW", "EBADEXEC", "EBADARCH", "ESHLIBVERS", "EBADMACHO", "ECANCELED",
     "EILSEQ", "ENOATTR", "EBADMSG", "EMULTIHOP", "ENODATA", "ENOLINK", "ENOSR", "ENOSTR",
     "EPROTO", "ETIME", "EOPNOTSUPP", "ENOPOLICY", "ENOTRECOVERABLE", "EOWNERDEAD", "EQFULL"]

/-- Address families, socket types, options, well-known addresses and flags. -/
def commonSocket : Tier where
  name := "common-socket"
  family := none
  category := .socket
  names :=
    ["AF_UNIX", "AF_LOCAL", "AF_INET", "AF_INET6", "SOCK_STREAM", "SOCK_DGRAM", "SOCK_SEQPACKET",
     "SOCK_RAW", "SOCK_RDM", "SOL_SOCKET", "IPPROTO_IP", "IPPROTO_IPV6", "IPPROTO_TCP",
     "IPPROTO_UDP", "SO_ACCEPTCONN", "SO_BROADCAST", "SO_DEBUG", "SO_ERROR", "SO_DONTROUTE",
     "SO_KEEPALIVE", "SO_LINGER", "SO_OOBINLINE", "SO_RCVBUF", "SO_RCVLOWAT", "SO_SNDLOWAT",
     "SO_RCVTIMEO", "SO_SNDTIMEO", "SO_REUSEADDR", "SO_SNDBUF", "SO_TIMESTAMP", "SO_TYPE",
     "TCP_NODELAY", "TCP_MAXSEG", "IP_MULTICAST_IF", "IP_MULTICAST_TTL", "IP_MULTICAST_LOOP",
     "IP_ADD_MEMBERSHIP", "IP_DROP_MEMBERSHIP", "INADDR_ANY", "INADDR_NONE", "INADDR_BROADCAST",
     "MSG_OOB", "MSG_PEEK", "MSG_DONTWAIT", "SHUT_RD", "SHUT_WR", "SHUT_RDWR"]

/-- Socket levels and options that only Linux has. -/
def linuxSocket : Tier where
  name := "linux-socket"
  family := some .linux
  category := .socket
  names :=
    ["SOL_IP", "SOL_TCP", "SOL_IPV6", "SOL_UDP", "SO_BINDTODEVICE", "SO_BSDCOMPAT", "TCP_CORK",
     "SO_PASSCRED", "SO_PRIORITY", "SO_RCVBUFFORCE", "SO_PEERCRED", "SO_SNDBUFFORCE"]

/-- Every tier. The common tier of a header comes before the tiers of single families. -/
def catalog : List Tier := [commonErrno, linuxErrno, darwinErrno, commonSocket, linuxSocket]

/-- The tiers to look up when `family` is active, in order. -/
def active (family : Family) (tiers : List Tier) : List Tier :=
  tiers.filter (·.appliesTo family)

end HeaderConstants.Tier
