namespace HeaderConstants.Snapshot

/-- The error number constants of the Linux headers. -/
def linuxErrno : List (String × Int) :=
  [("EPERM", 1), ("ENOENT", 2), ("ESRCH", 3), ("EINTR", 4), ("EIO", 5), ("ENXIO", 6),
   ("E2BIG", 7), ("ENOEXEC", 8), ("EBADF", 9), ("ECHILD", 10), ("EAGAIN", 11), ("ENOMEM", 12),
   ("EACCES", 13), ("EFAULT", 14), ("ENOTBLK", 15), ("EBUSY", 16), ("EEXIST", 17), ("EXDEV", 18),
   ("ENODEV", 19), ("ENOTDIR", 20), ("EISDIR", 21), ("EINVAL", 22), ("ENFILE", 23),
   ("EMFILE", 24), ("ENOTTY", 25), ("ETXTBSY", 26), ("EFBIG", 27), ("ENOSPC", 28), ("ESPIPE", 29),
   ("EROFS", 30), ("EMLINK", 31), ("EPIPE", 32), ("EDOM", 33), ("ERANGE", 34), ("EDEADLK", 35),
   ("ENAMETOOLONG", 36), ("ENOLCK", 37), ("ENOSYS", 38), ("ENOTEMPTY", 39), ("ELOOP", 40),
   ("ENOMSG", 42), ("EIDRM", 43), ("ECHRNG", 44), ("EL2NSYNC", 45), ("EL3HLT", 46),
   ("EL3RST", 47), ("ELNRNG", 48), ("EUNATCH", 49), ("ENOCSI", 50), ("EL2HLT", 51), ("EBADE", 52),
   ("EBADR", 53), ("EXFULL", 54), ("ENOANO", 55), ("EBADRQC", 56), ("EBADSLT", 57),
   ("EBFONT", 59), ("ENOSTR", 60), ("ENODATA", 61), ("ETIME", 62), ("ENOSR", 63), ("ENONET", 64),
   ("ENOPKG", 65), ("EREMOTE", 66), ("ENOLINK", 67), ("EADV", 68), ("ESRMNT", 69), ("ECOMM", 70),
   ("EPROTO", 71), ("EMULTIHOP", 72), ("EDOTDOT", 73), ("EBADMSG", 74), ("EOVERFLOW", 75),
   ("ENOTUNIQ", 76), ("EBADFD", 77), ("EREMCHG", 78), ("ELIBACC", 79), ("ELIBBAD", 80),
   ("ELIBSCN", 81), ("ELIBMAX", 82), ("ELIBEXEC", 83), ("EILSEQ", 84), ("ERESTART", 85),
   ("ESTRPIPE", 86), ("EUSERS", 87), ("ENOTSOCK", 88), ("EDESTADDRREQ", 89), ("EMSGSIZE", 90),
   ("EPROTOTYPE", 91), ("ENOPROTOOPT", 92), ("EPROTONOSUPPORT", 93), ("ESOCKTNOSUPPORT", 94),
   ("EOPNOTSUPP", 95), ("EPFNOSUPPORT", 96), ("EAFNOSUPPORT", 97), ("EADDRINUSE", 98),
   ("EADDRNOTAVAIL", 99), ("ENETDOWN", 100), ("ENETUNREACH", 101), ("ENETRESET", 102),
   ("ECONNABORTED", 103), ("ECONNRESET", 104), ("ENOBUFS", 105), ("EISCONN", 106),
   ("ENOTCONN", 107), ("ESHUTDOWN", 108), ("ETOOMANYREFS", 109), ("ETIMEDOUT", 110),
   ("ECONNREFUSED", 111), ("EHOSTDOWN", 112), ("EHOSTUNREACH", 113), ("EALREADY", 114),
   ("EINPROGRESS", 115), ("ESTALE", 116), ("EUCLEAN", 117), ("ENOTNAM", 118), ("ENAVAIL", 119),
   ("EISNAM", 120), ("EREMOTEIO", 121), ("EDQUOT", 122), ("ENOMEDIUM", 123), ("EMEDIUMTYPE", 124),
   ("ECANCELED", 125), ("ENOKEY", 126), ("EKEYEXPIRED", 127), ("EKEYREVOKED", 128),
   ("EKEYREJECTED", 129), ("EOWNERDEAD", 130), ("ENOTRECOVERABLE", 131), ("ERFKILL", 132)]

/-- The socket constants of the Linux headers. -/
def linuxSocket : List (String × Int) :=
  [("AF_UNIX", 1), ("AF_LOCAL", 1), ("AF_INET", 2), ("AF_INET6", 10), ("SOCK_STREAM", 1),
   ("SOCK_DGRAM", 2), ("SOCK_RAW", 3), ("SOCK_RDM", 4), ("SOCK_SEQPACKET", 5), ("SOL_SOCKET", 1),
   ("SOL_IP", 0), ("SOL_TCP", 6), ("SOL_UDP", 17), ("SOL_IPV6", 41), ("IPPROTO_IP", 0),
   ("IPPROTO_TCP", 6), ("IPPROTO_UDP", 17), ("IPPROTO_IPV6", 41), ("SO_DEBUG", 1),
   ("SO_REUSEADDR", 2), ("SO_TYPE", 3), ("SO_ERROR", 4), ("SO_DONTROUTE", 5), ("SO_BROADCAST", 6),
   ("SO_SNDBUF", 7), ("SO_RCVBUF", 8), ("SO_KEEPALIVE", 9), ("SO_OOBINLINE", 10),
   ("SO_PRIORITY", 12), ("SO_LINGER", 13), ("SO_BSDCOMPAT", 14), ("SO_PASSCRED", 16),
   ("SO_PEERCRED", 17), ("SO_RCVLOWAT", 18), ("SO_SNDLOWAT", 19), ("SO_RCVTIMEO", 20),
   ("SO_SNDTIMEO", 21), ("SO_BINDTODEVICE", 25), ("SO_TIMESTAMP", 29), ("SO_ACCEPTCONN", 30),
   ("SO_SNDBUFFORCE", 32), ("SO_RCVBUFFORCE", 33), ("TCP_NODELAY", 1), ("TCP_MAXSEG", 2),
   ("TCP_CORK", 3), ("IP_MULTICAST_IF", 32), ("IP_MULTICAST_TTL", 33), ("IP_MULTICAST_LOOP", 34),
   ("IP_ADD_MEMBERSHIP", 35), ("IP_DROP_MEMBERSHIP", 36), ("INADDR_ANY", 0x00000000),
   ("INADDR_BROADCAST", 0xFFFFFFFF), ("INADDR_NONE", 0xFFFFFFFF), ("MSG_OOB", 0x01),
   ("MSG_PEEK", 0x02), ("MSG_DONTWAIT", 0x40), ("SHUT_RD", 0), ("SHUT_WR", 1), ("SHUT_RDWR", 2)]

end HeaderConstants.Snapshot
