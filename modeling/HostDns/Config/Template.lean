import HostDns.Text.Lines

/-!
The configuration document that a new user starts from: every key, explained and commented out, so
that the document sets nothing.
-/

namespace HostDns.Config

/-- The lines of the template. -/
def templateLines : List String := [
  "# adapter-dns configuration file",
  "",
  "[query]",
  "# Address family for `adapters` (default: both)",
  "# Accepted values: \"ipv4\"/\"v4\"/\"4\", \"ipv6\"/\"v6\"/\"6\", or \"both\"/\"all\"/\"dual\"",
  "# ip_version = \"both\"",
  "",
  "# List adapters that are not operationally up",
  "# include_down = false",
  "",
  "# Ask for each adapter's WINS server list",
  "# include_wins = false",
  "",
  "[filter]",
  "# Regex patterns for adapter friendly names to include (empty = all)",
  "# Note: CLI patterns REPLACE these entirely (not merged)",
  "# include = [\"^Ethernet\", \"^Wi-Fi\"]",
  "",
  "# Regex patterns for adapter friendly names to exclude",
  "# Note: CLI patterns REPLACE these entirely (not merged)",
  "# exclude = [\"^vEthernet\"]",
  "",
  "# Exclude virtual adapters (tunnels, PPP)",
  "# exclude_virtual = false",
  "",
  "# Exclude loopback adapters",
  "# exclude_loopback = false",
  "",
  "[dns]",
  "# Ordering of default-domain servers: \"ipv6-first\", \"ipv4-only\", or \"as-listed\"",
  "# prefer = \"as-listed\"",
  "",
  "# resolv.conf candidates on non-Windows systems, tried in order",
  "# resolv_conf = [\"/etc/resolv.conf\", \"sys:/etc/resolv.cfg\"]",
  "",
  "# Servers used when nothing else is found for the default domain",
  "# fallbacks = [\"1.1.1.1\", \"8.8.8.8\"]"]

/-- The template. -/
def template : String := Text.unlines templateLines

end HostDns.Config
