namespace HeaderConstants.Snapshot

/-- The error number constants of the Darwin headers. -/
def darwinErrno : List (String × Int) :=
  [("EPERM", 1), ("ENOENT", 2), ("ESRCH", 3), ("EINTR", 4), ("EIO", 5), ("ENXIO", 6),
   ("E2BIG", 7), ("ENOEXEC", 8), ("EBADF", 9), ("ECHILD", 10), ("EDEADLK", 11), ("ENOMEM", 12),
   ("EACCES", 13), ("EFAULT", 14), ("ENOTBLK", 15), ("EBUSY", 16), ("EEXIST", 17), ("EXDEV", 18),
   ("ENODEV", 19), ("ENOTDIR", 20), ("EISDIR", 21), ("EINVAL", 22), ("ENFILE", 23),
   ("EMFILE", 24), ("ENOTTY", 25), ("ETXTBSY", 26), ("EFBIG", 27), ("ENOSPC", 28), ("ESPIPE", 29),
   ("EROFS", 30), ("EMLINK", 31), ("EPIPE", 32), ("EDOM", 33), ("ERANGE", 34), ("EAGAIN", 35),
   ("EINPROGRESS", 36), ("EALREADY", 37), ("ENOTSOCK", 38), ("EDESTADDRREQ", 39),
   ("EMSGSIZE", 40), ("EPROTOTYPE", 41), ("ENOPROTOOPT", 42), ("EPROTONOSUPPORT", 43),
   ("ESOCKTNOSUPPORT", 44), ("ENOTSUP", 45), ("EPFNOSUPPORT", 46), ("EAFNOSUPPORT", 47),
   ("EADDRINUSE", 48), ("EADDRNOTAVAIL", 49), ("ENETDOWN", 50), ("ENETUNREACH", 51),
   ("ENETRESET", 52), ("ECONNABORTED", 53), ("ECONNRESET", 54), ("ENOBUFS", 55), ("EISCONN", 56),
   ("ENOTCONN", 57), ("ESHUTDOWN", 58), ("ETOOMANYREFS", 59), ("ETIMEDOUT", 60),
   ("ECONNREFUSED", 61), ("ELOOP", 62), ("ENAMETOOLONG", 63), ("EHOSTDOWN", 64),
   ("EHOSTUNREACH", 65), ("ENOTEMPTY", 66), ("EPROCLIM", 67), ("EUSERS", 68), ("EDQUOT", 69),
   ("ESTALE", 70), ("EREMOTE", 71), ("EBADRPC", 72), ("ERPCMISMATCH", 73), ("EPROGUNAVAIL", 74),
   ("EPROGMISMATCH", 75), ("EPROCUNAVAIL", 76), ("ENOLCK", 77), ("ENOSYS", 78), ("EFTYPE", 79),
   ("EAUTH", 80), ("ENEEDAUTH", 81), ("EPWROFF", 82), ("EDEVERR", 83), ("EOVERFLOW", 84),
   ("EBADEXEC", 85), ("EBADARCH", 86), ("ESHLIBVERS", 87), ("EBADMACHO", 88), ("ECANCELED", 89),
   ("EIDRM", 90), ("ENOMSG", 91), ("EILSEQ", 92), ("ENOATTR", 93), ("EBADMSG", 94),
   ("EMULTIHOP", 95), ("ENODATA", 96), ("ENOLINK", 97), ("ENOSR", 98), ("ENOSTR", 99),
   ("EPROTO", 100), ("ETIME", 101), ("EOPNOTSUPP", 102), ("ENOPOLICY", 103),
   ("ENOTRECOVERABLE", 104), ("EOWNERDEAD", 105), ("EQFULL", 106)]

/-- The socket constants of the Darwin headers. -/
def darwinSocket : List (String × Int) :=
  [("AF_UNIX", 1), ("AF_LOCAL", 1), ("AF_INET", 2), ("AF_INET6", 30), ("SOCK_STREAM", 1),
   ("SOCK_DGRAM", 2), ("SOCK_RAW", 3), ("SOCK_RDM", 4), ("SOCK_SEQPACKET", 5),
   ("SOL_SOCKET", 0xFFFF), ("IPPROTO_IP", 0), ("IPPROTO_TCP", 6), ("IPPROTO_UDP", 17),
   ("IPPROTO_IPV6", 41), ("SO_DEBUG", 0x0001), ("SO_ACCEPTCONN", 0x0002),
   ("SO_REUSEADDR", 0x0004), ("SO_KEEPALIVE", 0x0008), ("SO_DONTROUTE", 0x0010),
   ("SO_BROADCAST", 0x0020), ("SO_LINGER", 0x0080), ("SO_OOBINLINE", 0x0100),
   ("SO_TIMESTAMP", 0x0400), ("SO_SNDBUF", 0x1001), ("SO_RCVBUF", 0x1002),
   ("SO_SNDLOWAT", 0x1003), ("SO_RCVLOWAT", 0x1004), ("SO_SNDTIMEO", 0x1005),
   ("SO_RCVTIMEO", 0x1006), ("SO_ERROR", 0x1007), ("SO_TYPE", 0x1008), ("TCP_NODELAY", 0x01),
   ("TCP_MAXSEG", 0x02), ("IP_MULTICAST_IF", 9), ("IP_MULTICAST_TTL", 10),
   ("IP_MULTICAST_LOOP", 11), ("IP_ADD_MEMBERSHIP", 12), ("IP_DROP_MEMBERSHIP", 13),
   ("INADDR_ANY", 0x00000000), ("INADDR_BROADCAST", 0xFFFFFFFF), ("INADDR_NONE", 0xFFFFFFFF),
   ("MSG_OOB", 0x1), ("MSG_PEEK", 0x2), ("MSG_DONTWAIT", 0x80), ("SHUT_RD", 0), ("SHUT_WR", 1),
   ("SHUT_RDWR", 2)]

end HeaderConstants.Snapshot
