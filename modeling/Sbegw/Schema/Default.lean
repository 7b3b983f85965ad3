import Sbegw.Schema.Primitives

/-!
# The default configuration
-/

namespace Sbegw.Schema

/-- A port of the default configuration. -/
private def defaultPort (role name : String) (network : Json) : Json :=
  .obj [("role", .str role), ("name", .str name), ("enabled", .bool true), ("mtu", .int 1500),
    ("speed", .str "auto"), ("duplex", .str "auto"), ("flow_control", .bool true),
    ("network", network), ("tagged_vlans", .arr [])]

/-- `default_config()["system"]` -/
def defaultSystem : Obj :=
  [("mode", .str "gateway"),
   ("fan", .obj [("mode", .str "auto"), ("manual_percent", .int 50)]),
   ("leds", .obj [("mode", .str "status"), ("brightness", .int 100)]),
   ("hostname", .str "sbe1v1k"),
   ("timezone", .str "UTC"),
   ("ntp", .obj [("enabled", .bool true),
     ("servers", .arr [.str "pool.ntp.org", .str "time.cloudflare.com"])]),
   ("led", .obj [("enabled", .bool true), ("brightness", .int 100)]),
   ("setup_complete", .bool false)]

/-- `default_config()["ports"]` -/
def defaultPorts : Obj :=
  [("eth0", defaultPort "lan" "LAN 1" (.str "default")),
   ("eth1", defaultPort "lan" "LAN 2" (.str "default")),
   ("eth2", defaultPort "lan" "LAN 3 (2.5G)" (.str "default")),
   ("eth3", defaultPort "wan" "WAN (10G)" .null)]

/-- `default_config()["networks"]["default"]` -/
def defaultNetwork : Obj :=
  [("name", .str "Default"),
   ("purpose", .str "corporate"),
   ("vlan", .null),
   ("zone", .str "lan"),
   ("subnet", .str "192.168.2.1/24"),
   ("ipv6", .obj [("mode", .str "dhcpv6-pd"), ("prefix_id", .int 0), ("ra", .bool true),
     ("dhcpv6", .bool true)]),
   ("dhcp", .obj [("enabled", .bool true), ("start", .str "192.168.2.100"),
     ("end", .str "192.168.2.250"), ("lease_seconds", .int 86400), ("dns", .arr []),
     ("domain", .str "lan"), ("options", .arr []), ("reservations", .arr [])]),
   ("isolation", .bool false),
   ("igmp_snooping", .bool true),
   ("mdns", .bool true),
   ("internet_access", .bool true),
   ("wan", .str "auto")]

/-- `default_config()["wans"]["wan1"]` -/
def defaultWan : Obj :=
  [("name", .str "WAN 1"),
   ("port", .str "eth3"),
   ("mode", .str "dhcp"),
   ("vlan", .null),
   ("priority", .int 1),
   ("weight", .int 1),
   ("enabled", .bool true),
   ("mtu", .int 1500),
   ("mss_clamp", .bool true),
   ("mac_clone", .null),
   ("static", .obj [("address", .null), ("gateway", .null), ("dns", .arr [])]),
   ("pppoe", .obj [("username", .null), ("password", .null), ("service", .null),
     ("mru", .int 1492)]),
   ("ipv6", .obj [("mode", .str "dhcpv6-pd"), ("prefix_hint", .null)]),
   ("dns", .arr []),
   ("health", .obj [("enabled", .bool true),
     ("targets", .arr [.str "1.1.1.1", .str "8.8.8.8"]), ("dns_target", .str "one.one.one.one"),
     ("interval", .int 5), ("loss_threshold", .int 40), ("latency_threshold_ms", .int 400)])]

/-- `default_config()["firewall"]` -/
def defaultFirewall : Obj :=
  [("hardware_offload", .bool false),
   ("tunnel_interfaces", .arr [.str "tun*", .str "utun*", .str "wg*", .str "tailscale*"]),
   ("default_policies", .obj [
     ("lan->wan", .str "allow"), ("lan->gateway", .str "allow"), ("lan->lan", .str "allow"),
     ("guest->wan", .str "allow"), ("guest->lan", .str "drop"), ("guest->gateway", .str "reject"),
     ("iot->wan", .str "allow"), ("iot->lan", .str "drop"), ("iot->gateway", .str "reject"),
     ("wan->lan", .str "drop"), ("wan->gateway", .str "drop"),
     ("containers->wan", .str "allow"), ("containers->lan", .str "drop"),
     ("containers->gateway", .str "reject")]),
   ("rules", .arr []),
   ("groups", .obj [("address", .obj []), ("port", .obj []), ("mac", .obj []),
     ("domain", .obj [])]),
   ("schedules", .obj [])]

/-- `default_config()["dns"]` -/
def defaultDns : Obj :=
  [("upstream", .arr [.str "1.1.1.1", .str "8.8.8.8"]),
   ("cache_size", .int 4096),
   ("dnssec", .bool false),
   ("filtering", .obj [("enabled", .bool false), ("block_malware", .bool true),
     ("block_ads", .bool false), ("allowlist", .arr []), ("blocklist", .arr [])]),
   ("records", .arr []),
   ("conditional_forwarders", .arr []),
   ("query_log", .bool false)]

/-- `default_config()["controller"]` -/
def defaultController : Obj :=
  [("enabled", .bool false), ("inform_url", .str ""), ("discovery", .bool true),
   ("sync_enabled", .bool false), ("api_url", .str ""), ("api_key", .str ""),
   ("site_id", .str ""), ("verify_tls", .bool true), ("interval_seconds", .int 10)]

/-- `default_config()["wifi"]` -/
def defaultWifi : Obj :=
  [("country", .str "US"),
   ("radios", .obj []),
   ("networks", .obj []),
   ("mlds", .obj []),
   ("rf_profiles", .obj [("default", .obj [
     ("name", .str "Default"),
     ("channel_width", .obj [("2g", .int 20), ("5g", .int 80), ("6g", .int 160)]),
     ("tx_power", .obj [("2g", .str "auto"), ("5g", .str "auto"), ("6g", .str "auto")]),
     ("min_rssi", .null), ("band_steering", .str "balanced"), ("dfs", .bool true),
     ("client_limit", .null)])]),
   ("radius", .obj []),
   ("ppsk", .obj []),
   ("regulatory", .obj [("environment", .str "indoor"), ("six_ghz_power", .str "lpi")]),
   ("channel_optimisation", .obj [("enabled", .bool false), ("min_interval_seconds", .int 21600),
     ("min_improvement", .float 15), ("avoid_dfs", .bool false), ("prefer_psc", .bool true),
     ("schedule_hour", .int 4)])]

/-- The entries of `default_config()`. -/
def defaultEntries : Obj :=
  [("schema_version", .int schemaVersion),
   ("system", .obj defaultSystem),
   ("ports", .obj defaultPorts),
   ("networks", .obj [("default", .obj defaultNetwork)]),
   ("wans", .obj [("wan1", .obj defaultWan)]),
   ("multiwan", .obj [("mode", .str "failover"), ("sticky_sessions", .bool true)]),
   ("firewall", .obj defaultFirewall),
   ("nat", .obj [("masquerade", .bool true), ("hairpin", .bool true), ("port_forwards", .arr []),
     ("one_to_one", .arr [])]),
   ("routing", .obj [("static", .arr []), ("ecmp", .bool false),
     ("frr", .obj [("enabled", .bool false), ("ospf", .obj []), ("bgp", .obj [])])]),
   ("policy_routes", .arr []),
   ("qos", .obj [("enabled", .bool false), ("engine", .str "cake"), ("download_kbps", .int 0),
     ("upload_kbps", .int 0), ("per_client_limits", .arr [])]),
   ("dns", .obj defaultDns),
   ("dpi", .obj [("enabled", .bool false), ("engine", .str "suricata"),
     ("retention_hours", .int 24), ("include_ipv6", .bool true)]),
   ("controller", .obj defaultController),
   ("services", .obj [("mdns", .obj [("enabled", .bool false), ("networks", .arr [])]),
     ("upnp", .obj [("enabled", .bool false), ("networks", .arr [])]),
     ("igmp_proxy", .obj [("enabled", .bool false), ("upstream", .null)]),
     ("ssh", .obj [("enabled", .bool true), ("port", .int 22)])]),
   ("wifi", .obj defaultWifi),
   ("vpn", .obj [("wireguard", .obj []), ("ipsec", .obj []), ("openvpn", .obj [])]),
   ("users", .obj []),
   ("api_tokens", .obj [])]

/-- `default_config()` -/
def defaultConfig : Json := .obj defaultEntries

end Sbegw.Schema
